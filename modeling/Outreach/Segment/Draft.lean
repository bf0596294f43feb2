import Outreach.Segment.Definition

/-!
Building a segment step by step. Criteria are added without a check; the definition as
a whole is checked when the segment is built.
-/

namespace Outreach

structure SegmentDraft where
  name : String
  description : Option String
  definition : Definition

namespace SegmentDraft

def new (name : String) : SegmentDraft := ⟨name, none, ⟨.all, []⟩⟩

def describe (d : SegmentDraft) (text : String) : SegmentDraft :=
  { d with description := some text }

def matchAny (d : SegmentDraft) : SegmentDraft :=
  { d with definition := ⟨.any, d.definition.criteria⟩ }

def add (d : SegmentDraft) (feature : Feature) (comparison : Comparison) (operand : Operand) :
    SegmentDraft :=
  { d with definition :=
      ⟨d.definition.combination, d.definition.criteria ++ [⟨feature, comparison, operand⟩]⟩ }

def totalOrderValueAbove (d : SegmentDraft) (amount : Float) : SegmentDraft :=
  d.add .totalOrderValue .gt (.number amount)

def minOrders (d : SegmentDraft) (count : UInt32) : SegmentDraft :=
  d.add .orderCount .gte (.number (Float.ofNat count.toNat))

def optedIn (d : SegmentDraft) : SegmentDraft :=
  d.add .marketingOptIn .eq (.flag true)

def orderedWithinDays (d : SegmentDraft) (days : UInt32) : SegmentDraft :=
  d.add .lastOrderDate .lt (.daysAgo days)

def notOrderedWithinDays (d : SegmentDraft) (days : UInt32) : SegmentDraft :=
  d.add .lastOrderDate .gt (.daysAgo days)

def shipsToState (d : SegmentDraft) (state : String) : SegmentDraft :=
  d.add .shippingState .eq (.text state)

def shipsToCountry (d : SegmentDraft) (country : String) : SegmentDraft :=
  d.add .shippingCountry .eq (.text country)

def build (d : SegmentDraft) (id : Ident) (now : Moment) : Except DefinitionFault Segment := do
  d.definition.check
  return ⟨id, d.name, d.description, d.definition, now⟩

end SegmentDraft

end Outreach

import FinanciaApp.Library.BitFlags

/-!
# Constraint attributes

`Core/ThirdParty/SnapKit/ConstraintAttributes.swift` with the properties of `ConstraintMaker`
and `ConstraintMakerExtendable` that start and extend a chain. The branches are those of iOS.
The members that set the flags of an attribute and no more (`allZeros`, `boolValue`, `toRaw`,
`fromRaw`, `fromMask`, `-=`) have no callers and are not modelled.
-/

set_option autoImplicit false

namespace FinanciaApp.Source

open Library

/-- `NSLayoutConstraint.Attribute`. -/
inductive LayoutAttribute where
  | left | right | top | bottom | leading | trailing | width | height | centerX | centerY
  | lastBaseline | firstBaseline | leftMargin | rightMargin | topMargin | bottomMargin
  | leadingMargin | trailingMargin | centerXWithinMargins | centerYWithinMargins
  | notAnAttribute
  deriving DecidableEq, Repr

structure ConstraintAttributes where
  rawValue : Nat
  deriving DecidableEq, Repr

namespace ConstraintAttributes

def none : ConstraintAttributes := ⟨0⟩
def left : ConstraintAttributes := ⟨1⟩
def top : ConstraintAttributes := ⟨2⟩
def right : ConstraintAttributes := ⟨4⟩
def bottom : ConstraintAttributes := ⟨8⟩
def leading : ConstraintAttributes := ⟨16⟩
def trailing : ConstraintAttributes := ⟨32⟩
def width : ConstraintAttributes := ⟨64⟩
def height : ConstraintAttributes := ⟨128⟩
def centerX : ConstraintAttributes := ⟨256⟩
def centerY : ConstraintAttributes := ⟨512⟩
def lastBaseline : ConstraintAttributes := ⟨1024⟩
def firstBaseline : ConstraintAttributes := ⟨2048⟩
def leftMargin : ConstraintAttributes := ⟨4096⟩
def rightMargin : ConstraintAttributes := ⟨8192⟩
def topMargin : ConstraintAttributes := ⟨16384⟩
def bottomMargin : ConstraintAttributes := ⟨32768⟩
def leadingMargin : ConstraintAttributes := ⟨65536⟩
def trailingMargin : ConstraintAttributes := ⟨131072⟩
def centerXWithinMargins : ConstraintAttributes := ⟨262144⟩
def centerYWithinMargins : ConstraintAttributes := ⟨524288⟩

def edges : ConstraintAttributes := ⟨15⟩
def size : ConstraintAttributes := ⟨192⟩
def center : ConstraintAttributes := ⟨768⟩
def margins : ConstraintAttributes := ⟨61440⟩
def centerWithinMargins : ConstraintAttributes := ⟨786432⟩

/-- The operator `+=`, which is `formUnion`. -/
def union (attributes other : ConstraintAttributes) : ConstraintAttributes :=
  ⟨attributes.rawValue ||| other.rawValue⟩

/-- The flags that `layoutAttributes` asks for, one after the other. -/
def layoutAttributeFlags : List (Nat × LayoutAttribute) :=
  [(left.rawValue, .left), (top.rawValue, .top), (right.rawValue, .right),
    (bottom.rawValue, .bottom), (leading.rawValue, .leading), (trailing.rawValue, .trailing),
    (width.rawValue, .width), (height.rawValue, .height), (centerX.rawValue, .centerX),
    (centerY.rawValue, .centerY), (lastBaseline.rawValue, .lastBaseline),
    (firstBaseline.rawValue, .firstBaseline), (leftMargin.rawValue, .leftMargin),
    (rightMargin.rawValue, .rightMargin), (topMargin.rawValue, .topMargin),
    (bottomMargin.rawValue, .bottomMargin), (leadingMargin.rawValue, .leadingMargin),
    (trailingMargin.rawValue, .trailingMargin),
    (centerXWithinMargins.rawValue, .centerXWithinMargins),
    (centerYWithinMargins.rawValue, .centerYWithinMargins)]

def layoutAttributes (attributes : ConstraintAttributes) : List LayoutAttribute :=
  named layoutAttributeFlags attributes.rawValue

end ConstraintAttributes

/-- The properties of a maker. -/
inductive MakerProperty where
  | left | top | bottom | right | leading | trailing | width | height | centerX | centerY
  | baseline | lastBaseline | firstBaseline | leftMargin | rightMargin | topMargin
  | bottomMargin | leadingMargin | trailingMargin | centerXWithinMargins | centerYWithinMargins
  | edges | size | center | margins | centerWithinMargins
  deriving DecidableEq, Repr

namespace MakerProperty

def attributes : MakerProperty → ConstraintAttributes
  | .left => .left
  | .top => .top
  | .bottom => .bottom
  | .right => .right
  | .leading => .leading
  | .trailing => .trailing
  | .width => .width
  | .height => .height
  | .centerX => .centerX
  | .centerY => .centerY
  | .baseline => .lastBaseline
  | .lastBaseline => .lastBaseline
  | .firstBaseline => .firstBaseline
  | .leftMargin => .leftMargin
  | .rightMargin => .rightMargin
  | .topMargin => .topMargin
  | .bottomMargin => .bottomMargin
  | .leadingMargin => .leadingMargin
  | .trailingMargin => .trailingMargin
  | .centerXWithinMargins => .centerXWithinMargins
  | .centerYWithinMargins => .centerYWithinMargins
  | .edges => .edges
  | .size => .size
  | .center => .center
  | .margins => .margins
  | .centerWithinMargins => .centerWithinMargins

end MakerProperty

/-- `ConstraintMakerExtendable` has every property of the maker except `center`. -/
abbrev ExtendableProperty : Type := { property : MakerProperty // property ≠ .center }

/-- A chain of properties as it is written: `make.left.top.edges`. -/
structure MakerChain where
  first : MakerProperty
  extensions : List ExtendableProperty

namespace MakerChain

def properties (chain : MakerChain) : List MakerProperty :=
  chain.first :: chain.extensions.map Subtype.val

/-- `makeExtendableWithAttributes` with the attributes of the first property, then one `+=`
for each further one. -/
def attributes (chain : MakerChain) : ConstraintAttributes :=
  chain.extensions.foldl (fun attributes property => attributes.union property.1.attributes)
    chain.first.attributes

/-- The chain mentions the attribute, by its own name or as part of an aggregate. -/
def Mentions (chain : MakerChain) (layoutAttribute : LayoutAttribute) : Prop :=
  ∃ property ∈ chain.properties, layoutAttribute ∈ property.attributes.layoutAttributes

instance (chain : MakerChain) (layoutAttribute : LayoutAttribute) :
    Decidable (chain.Mentions layoutAttribute) :=
  inferInstanceAs (Decidable (∃ property ∈ chain.properties,
    layoutAttribute ∈ property.attributes.layoutAttributes))

end MakerChain

namespace ConstraintAttributes

theorem layoutAttributeFlags_single : SingleBits layoutAttributeFlags where
  bit entry there := by
    obtain ⟨i, -, isBit⟩ : ∃ i < 20, entry.1 = 2 ^ i := by
      revert entry
      decide
    exact ⟨i, isBit⟩
  flags := by decide
  names := by decide

/-- Every flag of iOS is read off, so a word of the attributes has bits of the table only. -/
theorem ofTable_of_lt {word : Nat} (below : word < 2 ^ 20) :
    OfTable layoutAttributeFlags word := by
  intro i set
  have bound : i < 20 := by
    by_contra above
    rw [Nat.testBit_lt_two_pow (below.trans_le (Nat.pow_le_pow_right (by decide)
      (Nat.le_of_not_lt above)))] at set
    cases set
  have inTable : ∀ i < 20, ∃ entry ∈ layoutAttributeFlags, entry.1 = 2 ^ i := by decide
  exact inTable i bound

theorem rawValue_lt (property : MakerProperty) : property.attributes.rawValue < 2 ^ 20 := by
  cases property <;> decide

theorem layoutAttributes_nodup (attributes : ConstraintAttributes) :
    attributes.layoutAttributes.Nodup :=
  named_nodup layoutAttributeFlags layoutAttributeFlags_single attributes.rawValue

theorem notAnAttribute_not_mem (attributes : ConstraintAttributes) :
    .notAnAttribute ∉ attributes.layoutAttributes := by
  intro there
  obtain ⟨flag, inTable, -⟩ := (mem_named layoutAttributeFlags _ _).mp there
  revert inTable
  simp [layoutAttributeFlags]

end ConstraintAttributes

namespace MakerChain

/-- The attributes of a chain, as the union of all words it joins. -/
theorem rawValue_attributes (chain : MakerChain) :
    chain.attributes.rawValue =
      unionOf (chain.properties.map fun property => property.attributes.rawValue) := by
  have joined : ∀ (extensions : List ExtendableProperty) (start : ConstraintAttributes),
      (extensions.foldl (fun attributes property => attributes.union property.1.attributes)
        start).rawValue =
        (extensions.map fun property => property.1.attributes.rawValue).foldl
          (fun union word => union ||| word) start.rawValue := by
    intro extensions
    induction extensions with
    | nil => exact fun start => rfl
    | cons property extensions ih => exact fun start => ih (start.union property.1.attributes)
  rw [attributes, joined, unionOf, properties, List.map_cons, List.foldl_cons, Nat.zero_or,
    List.map_map]
  rfl

theorem ofTable_attributes (chain : MakerChain) :
    OfTable ConstraintAttributes.layoutAttributeFlags chain.attributes.rawValue := by
  rw [rawValue_attributes]
  apply ofTable_unionOf
  intro word there
  obtain ⟨property, -, rfl⟩ := List.mem_map.mp there
  exact ConstraintAttributes.ofTable_of_lt (ConstraintAttributes.rawValue_lt property)

theorem mem_layoutAttributes (chain : MakerChain) (layoutAttribute : LayoutAttribute) :
    layoutAttribute ∈ chain.attributes.layoutAttributes ↔ chain.Mentions layoutAttribute := by
  rw [ConstraintAttributes.layoutAttributes, rawValue_attributes,
    ConstraintAttributes.layoutAttributeFlags_single.mem_named_unionOf]
  simp [Mentions, ConstraintAttributes.layoutAttributes]

/-- Two chains set the same attributes exactly when they mention the same ones. -/
theorem attributes_eq_iff (chain other : MakerChain) :
    chain.attributes = other.attributes ↔
      ∀ layoutAttribute, chain.Mentions layoutAttribute ↔ other.Mentions layoutAttribute := by
  have words : chain.attributes = other.attributes ↔
      chain.attributes.rawValue = other.attributes.rawValue :=
    ⟨congrArg ConstraintAttributes.rawValue, fun h => by
      cases hc : chain.attributes
      cases ho : other.attributes
      rw [hc, ho] at h
      exact congrArg ConstraintAttributes.mk h⟩
  rw [words, ConstraintAttributes.layoutAttributeFlags_single.eq_iff_named
    chain.ofTable_attributes other.ofTable_attributes]
  exact forall_congr' fun layoutAttribute => by
    rw [← mem_layoutAttributes chain, ← mem_layoutAttributes other]
    rfl

end MakerChain

end FinanciaApp.Source

import FileShare.Matcher.Compile
import FileShare.Node
import FileShare.Pattern.Match
import Mathlib.Algebra.Order.Field.Rat

/-! # Nodes read as documents

A node is a document: values under names. The kinds of nodes differ in the names that they hold,
and a term is judged on the document and the grants alone. This is the meaning that a query over
the two node tables is measured against; nothing here knows of tables, columns or clauses.
-/
namespace FileShare

def Number.value : Number → ℚ
  | .int n => n
  | .float x => x.numerator / x.denominator

def Comparison.relates : Comparison → ℚ → ℚ → Bool
  | .above, a, b => b < a
  | .below, a, b => a < b
  | .atLeast, a, b => b ≤ a
  | .atMost, a, b => a ≤ b

namespace Document

inductive Value where
  | text (s : String)
  | number (n : Int)
  | texts (items : List String)
deriving DecidableEq, Repr

/-- Only values of one kind agree: numbers by value, texts to the letter. -/
def Value.agrees : Value → Json → Bool
  | number n, .num v => (n : ℚ) = v.value
  | text s, .str t => s = t
  | _, _ => false

end Document

abbrev Document := Entries Document.Value

namespace Node

def document : Node → Document
  | file f => [
    ("type", .text fileKind),
    ("owner", .text f.owner),
    ("createdAt", .number f.createdAt),
    ("modifiedAt", .number f.modifiedAt),
    (lowerNameField, .text f.lowerName),
    ("size", .number f.size),
    ("text", .text f.text),
    ("tags", .texts f.tags)]
  | metaNode m => [
    ("type", .text m.kind),
    ("owner", .text m.owner),
    ("createdAt", .number m.createdAt),
    (lowerNameField, .text m.lowerName)]

/-- A node is visible to its owner and to everyone with a grant of any level. -/
def VisibleTo (n : Node) (username : String) : Prop :=
  n.owner = username ∨ ∃ g ∈ n.permissions, g.1 = username

instance (n : Node) (username : String) : Decidable (n.VisibleTo username) :=
  inferInstanceAs (Decidable (_ ∨ _))

/-- The owner may edit a node, and so may everyone with an edit grant on it. -/
def EditableBy (n : Node) (username : String) : Prop :=
  n.owner = username ∨ (username, "edit") ∈ n.permissions

instance (n : Node) (username : String) : Decidable (n.EditableBy username) :=
  inferInstanceAs (Decidable (_ ∨ _))

end Node

/-- The truth of a term. A field that the document lacks satisfies equality with null and nothing
else; a value of another kind satisfies nothing. -/
def Term.holds (n : Node) : Term → Bool
  | .equals field .null => (Entries.get? n.document field).isNone
  | .equals field value => (Entries.get? n.document field).any fun v => v.agrees value
  | .range field operator bound =>
    match Entries.get? n.document field, Comparison.ofSymbol? operator with
    | some (.number m), some how => how.relates m bound.value
    | _, _ => false
  | .anyOf field values =>
    match Entries.get? n.document field with
    | some (.texts items) => items.any fun item => RawText.text item ∈ values
    | _ => false
  | .fits field source =>
    match Entries.get? n.document field, Matcher.readPattern source with
    | some (.text s), .ok p => p.foundIn s
    | _, _ => false
  | .granted grantee level => (grantee, level) ∈ n.permissions
  | .grantFits grantee source =>
    match Entries.get? n.permissions grantee, Matcher.readPattern source with
    | some level, .ok p => p.foundIn level
    | _, _ => false

def Term.number? : Term → Option Number
  | .equals _ (.num v) => some v
  | .range _ _ v => some v
  | _ => none

def Term.texts : Term → List RawText
  | .equals _ value => value.text?.toList
  | .anyOf _ values => values
  | .fits _ source => [source]
  | .grantFits _ source => [source]
  | _ => []

namespace Matcher

/-- The integers of a matcher are ones that the store takes: signed, of 64 bits. -/
def IntegersFit (m : Matcher) : Prop :=
  ∀ e ∈ m.terms ++ m.alternatives, ∀ k, e.number? = some (.int k) → -2 ^ 63 ≤ k ∧ k < 2 ^ 63

/-- The texts of a matcher are ones that the store takes: they have UTF-8 forms. -/
def TextsFit (m : Matcher) : Prop :=
  ∀ e ∈ m.terms ++ m.alternatives, ∀ t ∈ e.texts, t.utf8?.isSome

instance (m : Matcher) : Decidable m.TextsFit :=
  inferInstanceAs (Decidable (∀ _ ∈ _, ∀ _ ∈ _, _))

/-- The matcher keeps a node: all its terms hold and, if there are alternatives, one of them. -/
def keeps (m : Matcher) (n : Node) : Bool :=
  m.terms.all (·.holds n) && (m.alternatives.isEmpty || m.alternatives.any (·.holds n))

/-- The plain filter of a search: visible, below the cursor, and kept by the matcher. -/
def finds (m : Matcher) (username : String) (after : Option String) (n : Node) : Bool :=
  n.VisibleTo username && after.all (fun cursor => n.id < cursor) && m.keeps n

end Matcher
end FileShare

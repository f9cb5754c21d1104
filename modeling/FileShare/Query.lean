import FileShare.Failure
import FileShare.Matcher.Compile
import FileShare.Pattern.Match
import FileShare.Store

/-! # Queries over the node tables

A query is compiled once for each of the two node tables, because the tables differ in their
columns. A compiled clause is constant or a test on the rows of its table. A branch with a clause
that never holds is dropped as a whole, and with it the values that its tests compare with; so
whether the store can take all values of a query depends on the branches that are left.
-/
namespace FileShare.Query

inductive Table where
  | files
  | metas
deriving DecidableEq, Repr

def Table.rows (s : Store) : Table → List Node
  | files => s.files.map .file
  | metas => s.metas.map .metaNode

inductive Column where
  | kind
  | owner
  | createdAt
  | modifiedAt
  | lowerName
  | size
  | text
deriving DecidableEq, Repr

namespace Column

def ofField? : String → Option Column
  | "type" => some kind
  | "owner" => some owner
  | "createdAt" => some createdAt
  | "modifiedAt" => some modifiedAt
  | "name-lowercase" => some lowerName
  | "size" => some size
  | "text" => some text
  | _ => none

def isNumeric : Column → Bool
  | createdAt | modifiedAt | size => true
  | _ => false

end Column

/-- Meta nodes have no text and are not modified. -/
def Table.has : Table → Column → Bool
  | files, _ => true
  | metas, c => c != .modifiedAt && c != .size && c != .text

def Table.column? (t : Table) (field : String) : Option Column :=
  (Column.ofField? field).filter t.has

inductive Cell where
  | text (s : String)
  | number (n : Int)
deriving DecidableEq, Repr

def cell? : Node → Column → Option Cell
  | .file _, .kind => some (.text fileKind)
  | .file f, .owner => some (.text f.owner)
  | .file f, .createdAt => some (.number f.createdAt)
  | .file f, .modifiedAt => some (.number f.modifiedAt)
  | .file f, .lowerName => some (.text f.lowerName)
  | .file f, .size => some (.number f.size)
  | .file f, .text => some (.text f.text)
  | .metaNode m, .kind => some (.text m.kind)
  | .metaNode m, .owner => some (.text m.owner)
  | .metaNode m, .createdAt => some (.number m.createdAt)
  | .metaNode m, .lowerName => some (.text m.lowerName)
  | .metaNode _, _ => none

/-! ## Parameters -/

/-- A value that a client chose and that is handed to the store. -/
inductive Parameter where
  | number (v : Number)
  | text (t : RawText)
deriving DecidableEq, Repr

/-- Why the store cannot take a value: its integers are bounded and its texts have UTF-8 forms. -/
def Parameter.fault? : Parameter → Option Breakdown
  | number (.int n) => if Store.fitsInteger n then none else some .integerTooWide
  | number (.float _) => none
  | text (.text _) => none
  | text (.unpaired ..) => some .notEncodable

/-! ## Tests on rows -/

inductive Test where
  | visibleTo (username : String)
  | editableBy (username : String)
  | before (cursor : String)
  | among (ids : List String)
  | missing (c : Column)
  | textIs (c : Column) (t : RawText)
  | compares (c : Column) (how : Comparison) (v : Number)
  | numberIs (c : Column) (v : Number)
  | tagged (tags : List RawText)
  | fits (c : Column) (pattern : RawText)
  | granted (grantee level : String)
  | grantFits (grantee : String) (pattern : RawText)

/-- A search with a pattern that cannot be used breaks down. -/
def search (pattern : RawText) (text : String) : Except Failure Bool :=
  match Matcher.readPattern pattern with
  | .ok p => .ok (p.foundIn text)
  | .error _ => breakDown .unusablePattern

def tagsOf : Node → List String
  | .file f => f.tags
  | .metaNode _ => []

namespace Test

def holds (n : Node) : Test → Except Failure Bool
  | visibleTo username => .ok (n.owner = username || n.permissions.any fun g => g.1 = username)
  | editableBy username =>
    .ok (n.owner = username || n.permissions.any fun g => g.1 = username && g.2 = "edit")
  | before cursor => .ok (decide (n.id < cursor))
  | among ids => .ok (decide (n.id ∈ ids))
  | missing c => .ok (cell? n c).isNone
  | textIs c t =>
    match cell? n c with
    | some (.text s) => .ok (RawText.text s = t)
    | _ => .ok false
  | compares c how v =>
    match cell? n c with
    | some (.number m) => .ok ((v.compareInt? m).any how.holds)
    | _ => .ok false
  | numberIs c v =>
    match cell? n c with
    | some (.number m) => .ok (v.compareInt? m == some .eq)
    | _ => .ok false
  | tagged tags => .ok ((tagsOf n).any fun tag => RawText.text tag ∈ tags)
  | fits c pattern =>
    match cell? n c with
    | some (.text s) => search pattern s
    | some (.number _) => breakDown .unusablePattern
    | none => .ok false
  | granted grantee level => .ok (n.permissions.any fun g => g.1 = grantee && g.2 = level)
  | grantFits grantee pattern =>
    match Entries.get? n.permissions grantee with
    | some level => search pattern level
    | none => .ok false

/-- The values of clients that a test gives to the store to compare with, in order. -/
def parameters : Test → List Parameter
  | compares _ _ v => [.number v]
  | numberIs _ v => [.number v]
  | textIs _ t => [.text t]
  | tagged tags => tags.map .text
  | fits _ pattern => [.text pattern]
  | grantFits _ pattern => [.text pattern]
  | _ => []

end Test

/-! ## Clauses -/

inductive Clause where
  | always
  | never
  | test (t : Test)

namespace Clause

def isAlways : Clause → Bool
  | always => true
  | _ => false

def test? : Clause → Option Test
  | test t => some t
  | _ => none

end Clause

/-- Equality with null holds of a field that the document lacks. -/
def equalityClause (t : Table) (field : String) (value : Json) : Clause :=
  match t.column? field, value with
  | none, .null => .always
  | none, _ => .never
  | some c, .null => .test (.missing c)
  | some c, .num v => if c.isNumeric then .test (.numberIs c v) else .never
  | some c, v =>
    match v.text? with
    | some t => if c.isNumeric then .never else .test (.textIs c t)
    | none => .never

def rangeClause (t : Table) (field operator : String) (value : Number) : Except Failure Clause :=
  match t.column? field with
  | none => .ok .never
  | some c =>
    if c.isNumeric then
      match Comparison.ofSymbol? operator with
      | some how => .ok (.test (.compares c how value))
      | none => breakDown .unknownOperator
    else .ok .never

def clause (t : Table) : Term → Except Failure Clause
  | .equals field value => .ok (equalityClause t field value)
  | .range field operator value => rangeClause t field operator value
  | .anyOf _ values =>
    .ok (if t = .metas || values.isEmpty then .never else .test (.tagged values))
  | .fits field pattern =>
    match t.column? field with
    | none => .ok .never
    | some c => .ok (.test (.fits c pattern))
  | .granted grantee level => .ok (.test (.granted grantee level))
  | .grantFits grantee pattern => .ok (.test (.grantFits grantee pattern))

/-- What stands in the place of a term. Only terms have a meaning. -/
inductive Operand where
  | term (t : Term)
  | emptyGroup
  | value (v : Json)
deriving Repr

def operandClause (t : Table) : Operand → Except Failure Clause
  | .term e => clause t e
  | .emptyGroup => breakDown (.unknownTerm "OrOfRanges(operands=())")
  | .value v => breakDown (.unknownTerm v.displayInside)

/-! ## Branches -/

/-- A test, or a group of which one test has to hold. -/
inductive Criterion where
  | test (t : Test)
  | someOf (ts : List Test)

namespace Criterion

def tests : Criterion → List Test
  | test t => [t]
  | someOf ts => ts

/-- Tests are made in order until one holds. -/
def anyHolds (n : Node) : List Test → Except Failure Bool
  | [] => .ok false
  | t :: ts => do if ← t.holds n then return true else anyHolds n ts

def holds (n : Node) : Criterion → Except Failure Bool
  | test t => t.holds n
  | someOf ts => anyHolds n ts

end Criterion

/-- The criteria that have all to hold; a branch that no row can pass has none. -/
abbrev Branch := Option (List Criterion)

def conjunction : List Clause → Branch
  | [] => some []
  | .always :: rest => conjunction rest
  | .never :: _ => none
  | .test t :: rest => (conjunction rest).map (.test t :: ·)

/-- A group without clauses demands nothing; one whose clauses never hold cannot be passed. -/
def disjunction (clauses : List Clause) : Branch :=
  if clauses.isEmpty || clauses.any Clause.isAlways then some []
  else
    match clauses.filterMap Clause.test? with
    | [] => none
    | ts => some [.someOf ts]

def both (a b : Branch) : Branch := do return (← a) ++ (← b)

/-- Criteria are tried in order until one fails. -/
def allHold (n : Node) : List Criterion → Except Failure Bool
  | [] => .ok true
  | c :: cs => do if ← c.holds n then allHold n cs else return false

def select (criteria : List Criterion) : List Node → Except Failure (List Node)
  | [] => .ok []
  | n :: rest => do
    let here ← allHold n criteria
    let more ← select criteria rest
    return if here then n :: more else more

/-! ## Running -/

def branchParameters (b : Branch) : List Parameter :=
  (b.getD []).flatMap fun c => c.tests.flatMap Test.parameters

/-- A query: the branches of both tables and the size of a page. -/
structure Plan where
  files : Branch
  metas : Branch
  limit : Int

structure Row where
  id : String
  kind : String
deriving DecidableEq, Repr

def Row.ofNode (n : Node) : Row := ⟨n.id, n.kind⟩

def newestFirst (rows : List Row) : List Row := sortBy (fun a b => decide (b.id ≤ a.id)) rows

/-- A negative limit is none. -/
def page (limit : Int) (rows : List α) : List α := if limit < 0 then rows else rows.take limit.toNat

namespace Plan

def parameters (p : Plan) : List Parameter :=
  branchParameters p.files ++ branchParameters p.metas ++ [.number (.int p.limit)]

/-- Why the store cannot take the values of a query, told by the first that it cannot take. -/
def fault? (p : Plan) : Option Breakdown := p.parameters.findSome? Parameter.fault?

def rowsOf (s : Store) (t : Table) : Branch → Except Failure (List Row)
  | none => .ok []
  | some criteria => do return (← select criteria (t.rows s)).map Row.ofNode

/-- The rows of both tables, newest first, cut to a page. -/
def rows (s : Store) (p : Plan) : Except Failure (List Row) :=
  match p.fault? with
  | some fault => breakDown fault
  | none => do
    let files ← rowsOf s .files p.files
    let metas ← rowsOf s .metas p.metas
    return page p.limit (newestFirst (files ++ metas))

end Plan

/-! ## The queries -/

/-- The branch of a table: what a user sees, below a cursor, under terms and a group of
alternatives. -/
def searchBranch (terms : List Operand) (alternatives : Option (List Operand)) (username : String)
    (after : Option String) (t : Table) : Except Failure Branch := do
  let own : List Clause := [.test (.visibleTo username)]
  let cursor : List Clause := after.toList.map fun id => .test (.before id)
  let clauses ← terms.mapM (operandClause t)
  match alternatives with
  | none => return conjunction (own ++ cursor ++ clauses)
  | some group =>
    return both (conjunction (own ++ cursor ++ clauses))
      (disjunction (← group.mapM (operandClause t)))

def searchPlan (terms : List Operand) (alternatives : Option (List Operand)) (username : String)
    (limit : Int) (after : Option String) : Except Failure Plan := do
  let files ← searchBranch terms alternatives username after .files
  let metas ← searchBranch terms alternatives username after .metas
  return { files, metas, limit }

def ofMatcher (m : Matcher) (username : String) (limit : Int) (after : Option String) :
    Except Failure Plan :=
  let alternatives := if m.alternatives.isEmpty then none else some (m.alternatives.map .term)
  searchPlan (m.terms.map .term) alternatives username limit after

/-- The nodes of some identifiers that a user sees. -/
def idPlan (ids : List String) (username : String) : Plan :=
  let branch : Branch := some [.test (.among ids), .test (.visibleTo username)]
  { files := branch, metas := branch, limit := max ids.length 1 }

/-- The node of an identifier if a user may edit it. -/
def editPlan (id username : String) : Plan :=
  let branch : Branch := some [.test (.among [id]), .test (.editableBy username)]
  { files := branch, metas := branch, limit := 1 }

/-- The node of a row. The kind in the row tells in which table to look; where rows of both
kinds have the identifier, the meta node is taken. -/
def nodeOf? (s : Store) (rows : List Row) (id : String) : Option Node :=
  let kinds := (rows.filter fun r => r.id = id).map Row.kind
  let metaHit :=
    if kinds.any (· ≠ fileKind) then s.metas.find? (fun m => m.id = id) else none
  let fileHit :=
    if kinds.any (· = fileKind) then s.files.find? (fun f => f.id = id) else none
  (metaHit.map .metaNode).or (fileHit.map .file)

/-- The nodes of the rows of an answer, in their order. -/
def fetch (s : Store) (p : Plan) : Except Failure (List Node) := do
  let rows ← p.rows s
  return rows.filterMap fun r => nodeOf? s rows r.id

end FileShare.Query

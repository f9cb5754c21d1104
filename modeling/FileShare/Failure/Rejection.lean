import FileShare.Json.Display

/-! # Rejections

A rejection is the drive's own refusal of a request. It carries its cause; the wording, the
status and the data that go with it are functions of the cause.
-/
namespace FileShare

/-- What the length of a text had to be. -/
inductive Bounds where
  | exactly (length : Int)
  | within (least most : Int)
deriving DecidableEq, Repr

/-- How the length of a text is counted, or what it has to consist of. -/
inductive TextKind where
  | text
  | hexadecimal
  | bytes
deriving DecidableEq, Repr

/-- What the value of a matcher's entry had to be. -/
inductive Expected where
  | number
  | list
  | listOfTexts
  | level
  | nonEmptyObject
  | scalarOrConditions
deriving DecidableEq, Repr

/-- What is wrong with the alternatives of a range condition; an index names the operand. -/
inductive OrFault where
  | notPair
  | notObject (index : Nat)
  | notSingle (index : Nat)
  | unknownOperator (operator : RawText) (index : Nat)
  | notNumber (operator : RawText) (index : Nat)
deriving DecidableEq, Repr

inductive Rejection where
  | notObject
  | badField (field : String)
  | badLength (field : String) (bounds : Bounds) (kind : TextKind)
  | badEntries (field : String)
  | tooMany (subject : String)
  | unknownField (field : RawText)
  | unknownSpecifier (specifier : RawText)
  | unknownCondition (specifier : RawText)
  | barePermissions
  | matcherNotObject (matcher : String)
  | badSpecifierValue (specifier : RawText) (expected : Expected)
  | badAlternatives (fault : OrFault)
  | badPattern (specifier : RawText)
  | reservedUsername
  | badIdentifier (value : Json) (field : Option String)
  | fieldTaken (field : String)
  | notFound (item : Json) (itemName : String)
  | someNotFound (itemName : String)
deriving Repr

def Bounds.text : Bounds → String
  | exactly n => s!"长度必须恰好为 {n}"
  | within least most => s!"长度必须在 {least} 到 {most} 之间"

def TextKind.name : TextKind → String
  | text => "string"
  | hexadecimal => "hexadecimal"
  | bytes => "bytes"

def Expected.name : Expected → String
  | number => "数字"
  | list => "数组"
  | listOfTexts => "字符串数组"
  | level => "`view` 或 `edit`"
  | nonEmptyObject => "非空对象"
  | scalarOrConditions => "数字、字符串、布尔值或子匹配对象"

namespace OrFault

def index? : OrFault → Option Nat
  | notPair => none
  | notObject i => some i
  | notSingle i => some i
  | unknownOperator _ i => some i
  | notNumber _ i => some i

def detail : OrFault → RawText
  | notPair => "必须是恰好包含两个元素的数组"
  | notObject _ => "必须是对象"
  | notSingle _ => "必须恰好包含一个子匹配符"
  | unknownOperator operator _ => "含有非法的子匹配符 `" ++ operator ++ "`"
  | notNumber operator _ => "中 `" ++ operator ++ "` 的值必须是数字"

def place (fault : OrFault) : String :=
  match fault.index? with
  | none => "`$or`"
  | some i => s!"`$or` 的第 {i} 个元素"

end OrFault

namespace Rejection

def message : Rejection → RawText
  | notObject => "请求体必须是 JSON 对象"
  | badField field => s!"字段 `{field}` 的值无效"
  | badLength field bounds kind => s!"字段 `{field}` 必须是 {kind.name}，{bounds.text}"
  | badEntries field => s!"字段 `{field}` 含有非法的键或值"
  | tooMany subject => s!"{subject} 的数量超出上限"
  | unknownField field => "未知字段 `" ++ field ++ "`"
  | unknownSpecifier specifier => "未知或不允许的匹配字段 `" ++ specifier ++ "`"
  | unknownCondition specifier => "未知或不允许的子匹配符 `" ++ specifier ++ "`"
  | barePermissions => "不支持直接匹配 `permissions`，请使用 `permissions.<用户名>` 形式"
  | matcherNotObject matcher => s!"`{matcher}` 必须是对象"
  | badSpecifierValue specifier expected => "`" ++ specifier ++ "` 的值必须是" ++ expected.name
  | badAlternatives fault => fault.place ++ fault.detail
  | badPattern specifier => "`" ++ specifier ++ "` 必须是非空且合法的正则表达式"
  | reservedUsername => "该用户名为系统保留名称，不可使用"
  | badIdentifier value _ => "`" ++ value.display ++ "` 不是合法的标识符"
  | fieldTaken field => s!"字段 `{field}` 的值已被占用"
  | notFound item itemName => s!"{itemName} `" ++ item.display ++ "` 不存在"
  | someNotFound itemName => s!"一个或多个 {itemName} 不存在"

/-- The code of the cause, for readers that are programs; a missing item has none. -/
def reason? : Rejection → Option String
  | notObject => some "invalid-json"
  | badField _ => some "invalid-field-value"
  | badLength .. => some "invalid-string-length"
  | badEntries _ => some "invalid-object-key-value"
  | tooMany _ => some "too-many-items-requested"
  | unknownField _ => some "unknown-field"
  | unknownSpecifier _ | unknownCondition _ | barePermissions => some "unknown-specifier"
  | matcherNotObject _ | badSpecifierValue .. | badAlternatives _ | badPattern _ =>
    some "invalid-matcher-shape"
  | reservedUsername => some "illegal-username"
  | badIdentifier .. => some "invalid-object-id"
  | fieldTaken _ => some "duplicate-field-value"
  | notFound .. | someNotFound _ => none

/-- The entries that stand beside the code. -/
def details : Rejection → Json.Object
  | notObject | reservedUsername => []
  | badField field | badLength field _ _ | badEntries field | tooMany field | fieldTaken field =>
    [("field", .str field)]
  | unknownField field => [("field", .ofText field)]
  | unknownSpecifier specifier | unknownCondition specifier | badPattern specifier
  | badSpecifierValue specifier _ => [("specifier", .ofText specifier)]
  | barePermissions => [("specifier", .str "permissions")]
  | matcherNotObject matcher => [("matcher", .str matcher)]
  | badAlternatives fault =>
    [("specifier", .str "$or"), ("index", Json.ofOption (fun i => .int (Int.ofNat i)) fault.index?)]
  | badIdentifier value field =>
    ("value", .ofText value.display) :: (field.map fun f => (.text "field", Json.str f)).toList
  | notFound item itemName =>
    [("item", match item with | .null => .null | v => .ofText v.display),
      ("item_name", .str itemName)]
  | someNotFound itemName => [("item_name", .str itemName)]

def data (r : Rejection) : Json :=
  .obj ((r.reason?.map fun code => (.text "reason", Json.str code)).toList ++ r.details)

def status (r : Rejection) : Nat := if r.reason?.isSome then 400 else 404

end Rejection
end FileShare

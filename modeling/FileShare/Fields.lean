import FileShare.Failure

/-! # Fields of a request body -/
namespace FileShare.Fields

def ifPresent (body : Json.Object) (field : RawText) (check : Json → Except Failure α) :
    Except Failure (Option α) :=
  match Entries.get? body field with
  | some v => some <$> check v
  | none => .ok none

def checkKnown (allowed : List RawText) (body : Json.Object) : Except Failure Unit :=
  match (Entries.names body).find? (· ∉ allowed) with
  | some field => reject (.unknownField field)
  | none => .ok ()

end FileShare.Fields

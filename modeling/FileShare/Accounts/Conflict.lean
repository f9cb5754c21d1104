import FileShare.Text.Split

/-! # Conflicts as a database words them -/
namespace FileShare

/-- The fields in which accounts differ, with the columns that enforce it. -/
def uniqueColumns : List (String × String) :=
  [("username", "username_lowercase"), ("email", "email_lowercase")]

/-- The field of a conflict: by the name of the constraint, if there is one, else by the column
that the first line of the message names. -/
def conflictField? (constraint : Option String) (message : String) : Option String :=
  match constraint.filter (· ≠ "") with
  | some name => (uniqueColumns.find? fun c => name = "uq_users_" ++ c.2).map Prod.fst
  | none =>
    let line := String.ofList (message.toList.takeWhile (· ≠ '\n'))
    (uniqueColumns.find? fun c => Text.contains ("users." ++ c.2) line).map Prod.fst

end FileShare

/-!
Why a file cannot be used. Most causes have a number, a kind and a text that the system gives them;
a few are found before the system is asked.
-/

namespace Boundary

inductive Refusal where
  | permissionDenied
  | deviceFailed
  deriving DecidableEq

inductive FileError where
  | notFound
  | alreadyExists
  | notDirectory
  | isDirectory
  | nameTooLong
  | nulInName
  | notText
  | refused (cause : Refusal)
  deriving DecidableEq

structure SystemReason where
  code : Nat
  kind : String
  text : String

namespace FileError

def systemReason? : FileError → Option SystemReason
  | notFound => some ⟨2, "NotFound", "No such file or directory"⟩
  | alreadyExists => some ⟨17, "AlreadyExists", "File exists"⟩
  | notDirectory => some ⟨20, "NotADirectory", "Not a directory"⟩
  | isDirectory => some ⟨21, "IsADirectory", "Is a directory"⟩
  | nameTooLong => some ⟨36, "InvalidFilename", "File name too long"⟩
  | refused .permissionDenied => some ⟨13, "PermissionDenied", "Permission denied"⟩
  | refused .deviceFailed => some ⟨5, "Uncategorized", "Input/output error"⟩
  | nulInName | notText => none

def ownReason : FileError → String × String
  | notText => ("InvalidData", "stream did not contain valid UTF-8")
  | _ => ("InvalidInput", "file name contained an unexpected NUL byte")

def message (error : FileError) : String :=
  match error.systemReason? with
  | some reason => s!"{reason.text} (os error {reason.code})"
  | none => error.ownReason.2

def debugText (error : FileError) : String :=
  match error.systemReason? with
  | some reason =>
    "Os \x7b code: " ++ toString reason.code ++ ", kind: " ++ reason.kind ++ ", message: \"" ++
      reason.text ++ "\" \x7d"
  | none =>
    "Error \x7b kind: " ++ error.ownReason.1 ++ ", message: \"" ++ error.ownReason.2 ++ "\" \x7d"

end FileError

end Boundary

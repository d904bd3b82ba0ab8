-- The settings in force at a call, and their document.
import Predefined.Diagnostics
import Predefined.File
import Predefined.Json.Printer
import Predefined.Json.Record

namespace Predefined

open Json

/-- What `round` does with a double that no 64-bit integer is near to. -/
inductive OverflowPolicy where
  | fail
  /-- The nearest end of the range, and zero for not a number. -/
  | saturate
deriving DecidableEq

structure Settings where
  /-- A vault that cannot resolve an alias answers with a text that starts like this. -/
  vaultPrefix : String
  overflow : OverflowPolicy
deriving DecidableEq

/-- The mark of an unknown alias, unless another one is set. -/
def defaultVaultPrefix : String := "wso2:vault-lookup("

namespace OverflowPolicy

def name : OverflowPolicy → String
  | fail => "fail"
  | saturate => "saturate"

def ofName? (name : String) : Option OverflowPolicy :=
  [fail, saturate].find? (·.name = name)

def ofTree? (t : Tree) : Option OverflowPolicy :=
  (Record.word? t).bind ofName?

end OverflowPolicy

namespace Settings

def default : Settings where
  vaultPrefix := defaultVaultPrefix
  overflow := .fail

/-- The fields of the document, in order. -/
def fieldNames : List String :=
  ["vault_lookup_prefix", "round_overflow"]

def ofTree? (t : Tree) : Option Settings := do
  match ← Record.fields? fieldNames t with
  | [vault, overflow] =>
    let vaultPrefix ← Record.optional default.vaultPrefix Record.string? vault
    let overflow ← Record.optional default.overflow OverflowPolicy.ofTree? overflow
    pure { vaultPrefix, overflow }
  | _ => none

def toTree (s : Settings) : Tree :=
  Tree.record
    [("vault_lookup_prefix", .text s.vaultPrefix), ("round_overflow", .text s.overflow.name)]

/-- Reads a document. Fields that are not given have their defaults. -/
def parse? (document : String) : Option Settings :=
  (Tree.parse? document).bind ofTree?

def compact (s : Settings) : String :=
  s.toTree.compact

end Settings

/-! ## Files -/

/-- Why there are no settings. -/
inductive SettingsError where
  | unreadable (path : String) (reason : FileError)
  | malformed (document : String)
deriving DecidableEq

def SettingsError.text (d : Diagnostics) : SettingsError → String
  | unreadable path reason =>
    "Failed to read configuration file " ++ path ++ ": " ++ reason.text
  | malformed document => "Invalid configuration: " ++ d.settings document

/-- The settings in a file. -/
def Settings.load (read : ReadFile) (path : String) : Except SettingsError Settings :=
  match read path with
  | .error reason => .error (.unreadable path reason)
  | .ok document =>
    match Settings.parse? document with
    | some settings => .ok settings
    | none => .error (.malformed document)

end Predefined

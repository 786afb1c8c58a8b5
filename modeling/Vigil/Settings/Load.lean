import Vigil.Fault

/-!
# Settings from files

* `Settings.ofText`: settings of a text that passed all checks;
* `Settings.load`: settings of a file, given what reading its path yields.
-/

namespace Vigil.Settings

/-- The settings of a text, checked. -/
def ofText (text : String) : Except Fault Settings := do
  let settings ← (parse text).mapError .configParse
  settings.validate
  return settings

/-- The text of a file's bytes. -/
def textOf (bytes : ByteArray) : Except IoFault String :=
  match String.fromUTF8? bytes with
  | some text => .ok text
  | none => .error .notText

/-- The settings of the file at a path, checked.  `read` gives the bytes of a path's file. -/
def load (read : String → Except IoFault ByteArray) (path : String) : Except Fault Settings := do
  let text ← (read path >>= textOf).mapError (.configRead path)
  ofText text

end Vigil.Settings

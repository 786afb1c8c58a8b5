import Vigil.Decimal.Layout
import Vigil.Handler.Kind
import Vigil.Text.Quoted
import Vigil.Toml.Excerpt

/-!
# What in a document does not fit

* `Found`, `Wanted`: what stands in a document, and what should;
* `Mismatch`, `Mismatch.text`: the ways in which a part can fail to fit;
* `Misfit`: a mismatch and its place.
-/

namespace Vigil.Settings

open Vigil.Toml

/-- What stands in a document. -/
inductive Found where
  | integer (i : Int)
  | float (x : Float)
  | boolean (b : Bool)
  | string (s : String)
  | sequence
  | map

/-- What should stand there: an integer without a sign, of 64 bits or of 32, a Boolean, a table, the
settings of the loop, or those of a monitor. -/
inductive Wanted where
  | word64
  | word32
  | boolean
  | map
  | watchdog
  | monitor
  deriving DecidableEq

/-- The ways in which a part of a document can fail to fit.  It is of the wrong kind or an integer
out of bounds; or it should name a remediation, by text or by a table with one entry, and does not,
or something stands behind the name where nothing should. -/
inductive Mismatch where
  | kind (found : Found) (wanted : Wanted)
  | range (i : Int) (wanted : Wanted)
  | unknownVariant (name : String)
  | notStringOrTable
  | noElement
  | manyElements
  | notTable (what : String)
  | notEmpty
  | notEmptyArray

/-- A mismatch and the place of the part that does not fit. -/
structure Misfit where
  mismatch : Mismatch
  span : Span

/-- What was found, in words. -/
def Found.text : Found → String
  | integer i => "integer `" ++ toString i ++ "`"
  | float x => "floating point `" ++ Decimal.Layout.plain.render x ++ "`"
  | boolean b => "boolean `" ++ toString b ++ "`"
  | string s => "string " ++ Text.quoted s
  | sequence => "sequence"
  | map => "map"

/-- What was wanted, in words. -/
def Wanted.text : Wanted → String
  | word64 => "u64"
  | word32 => "u32"
  | boolean => "a boolean"
  | map => "a map"
  | watchdog => "struct WatchdogSettings"
  | monitor => "struct MonitorSettings"

/-- The names of all remediations, for a message. -/
def variantNames : String :=
  ", ".intercalate
    ([HandlerKind.null, .termProcess, .managedProcess].map fun k => "`" ++ k.name ++ "`")

/-- What is wrong, in words. -/
def Mismatch.text : Mismatch → String
  | kind found wanted => "invalid type: " ++ found.text ++ ", expected " ++ wanted.text
  | range i wanted =>
    "invalid value: " ++ (Found.integer i).text ++ ", expected " ++ wanted.text
  | unknownVariant name =>
    "unknown variant `" ++ name ++ "`, expected one of " ++ variantNames
  | notStringOrTable => "wanted string or table"
  | noElement => "wanted exactly 1 element, found 0 elements"
  | manyElements => "wanted exactly 1 element, more than 1 element"
  | notTable what => "expected table, found " ++ what
  | notEmpty => "expected empty table"
  | notEmptyArray => "expected empty array"

end Vigil.Settings

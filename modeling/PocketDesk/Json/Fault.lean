import PocketDesk.Decimal.FloatText
import PocketDesk.Text.Quoted

/-! Why a JSON text was refused. The text may be malformed, it may end too early, or it
may be well-formed so far and have the wrong shape; only the last kind is put into words. -/

namespace PocketDesk.Json

inductive Found where
  | null
  | boolean (value : Bool)
  | integer (value : Int)
  | floating (value : Float)
  | string (value : String)
  | sequence
  | map

def Found.text : Found → String
  | .null => "null"
  | .boolean true => "boolean `true`"
  | .boolean false => "boolean `false`"
  | .integer n => "integer `" ++ toString n ++ "`"
  | .floating x => "floating point `" ++ Decimal.floatText x ++ "`"
  | .string s => "string " ++ Text.quoted s
  | .sequence => "sequence"
  | .map => "map"

/-- How the shape of a text departs from the one asked for. -/
inductive Mismatch where
  | missingField (name : String)
  | duplicateField (name : String)
  | wrongType (found : Found) (expected : String)
  | wrongValue (found : Found) (expected : String)
  | wrongLength (length : Nat) (expected : String)

def Mismatch.message : Mismatch → String
  | .missingField name => "missing field `" ++ name ++ "`"
  | .duplicateField name => "duplicate field `" ++ name ++ "`"
  | .wrongType found expected => "invalid type: " ++ found.text ++ ", expected " ++ expected
  | .wrongValue found expected => "invalid value: " ++ found.text ++ ", expected " ++ expected
  | .wrongLength n expected => "invalid length " ++ toString n ++ ", expected " ++ expected

inductive Fault where
  /-- Not JSON, or nested too deeply. -/
  | malformed
  /-- The text ends where more is needed. -/
  | truncated
  /-- Well-formed so far, but not of the shape asked for. -/
  | mismatch (m : Mismatch)

/-- How a message goes on that tells of a fault. The place in the text is not told. -/
def Fault.detail : Fault → String
  | .malformed | .truncated => ""
  | .mismatch m => " " ++ m.message

end PocketDesk.Json

import RequestDispatch.Request
import RequestDispatch.Response
import RequestDispatch.Text.Digits

/-!
# Access lines

One line for each answered request, in the combined log format.
-/

set_option autoImplicit false

namespace RequestDispatch.AccessLog

/-- A local time. -/
structure Time where
  year : Int
  month : Nat
  day : Nat
  hour : Nat
  minute : Nat
  second : Nat
  /-- Seconds that the local time is ahead of universal time. -/
  offset : Int
  deriving DecidableEq, Repr

namespace Time

def monthNames : List String :=
  ["Jan", "Feb", "Mar", "Apr", "May", "Jun", "Jul", "Aug", "Sep", "Oct", "Nov", "Dec"]

/-- A year from 0 to 9999 has four digits, any other a sign and at least four. -/
def yearText (year : Int) : String :=
  if 0 ≤ year && year ≤ 9999 then Text.padded 4 year.toNat
  else (if year < 0 then "-" else "+") ++ Text.padded 4 year.natAbs

/-- A sign, hours and minutes, rounded to the nearest minute. -/
def offsetText (offset : Int) : String :=
  let minutes := (offset.natAbs + 30) / 60
  (if offset < 0 then "-" else "+") ++ Text.padded 2 (minutes / 60) ++ Text.padded 2 (minutes % 60)

/-- A time as in `02/Jan/2026:23:00:00 -0500`. -/
def text (t : Time) : String :=
  Text.padded 2 t.day ++ "/" ++ monthNames.getD (t.month - 1) "" ++ "/" ++ yearText t.year ++ ":" ++
    Text.padded 2 t.hour ++ ":" ++ Text.padded 2 t.minute ++ ":" ++ Text.padded 2 t.second ++ " " ++
    offsetText t.offset

end Time

/-- The line for a request and its response; what is not known is `-`. -/
def line (r : Request) (answer : Response) (time : String) : String :=
  r.remoteAddr.getD "-" ++ " - - [" ++ time ++ "] \"" ++ r.method ++ " " ++ r.uri ++ " " ++
    r.protocol ++ "\" " ++ toString answer.status.toNat ++ " " ++ toString answer.body.length ++ " \"" ++
    (r.header? "referer").getD "-" ++ "\" \"" ++ (r.header? "user-agent").getD "-" ++ "\""

end RequestDispatch.AccessLog

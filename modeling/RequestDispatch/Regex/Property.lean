import RequestDispatch.Text.Category
import RequestDispatch.Text.Script

/-!
# Named character properties

The sets behind `\p` escapes, by general category, script or a few yes-or-no properties. Names
are compared without case, spaces, hyphens and underscores, and a leading `is` does not count.
-/

set_option autoImplicit false

namespace RequestDispatch.Regex

open Text (CharSet)

/-- A property name in the form in which names are compared. -/
def looseName (name : List Char) : String :=
  let kept := (name.filter fun c => c != ' ' && c != '_' && c != '-' && c.toNat < 0x80).map
    Char.toLower
  let short := match kept with
    | 'i' :: 's' :: rest => if rest == ['c'] then kept else rest
    | _ => kept
  String.ofList short

/-- Long names of general categories and of their groups, with their letters. -/
def categoryNames : List (String × String) :=
  [("letter", "L"), ("uppercaseletter", "Lu"), ("lowercaseletter", "Ll"),
   ("titlecaseletter", "Lt"), ("modifierletter", "Lm"), ("otherletter", "Lo"), ("mark", "M"),
   ("combiningmark", "M"), ("nonspacingmark", "Mn"), ("spacingmark", "Mc"),
   ("enclosingmark", "Me"), ("number", "N"), ("decimalnumber", "Nd"), ("digit", "Nd"),
   ("letternumber", "Nl"), ("othernumber", "No"), ("punctuation", "P"), ("punct", "P"),
   ("connectorpunctuation", "Pc"), ("dashpunctuation", "Pd"), ("openpunctuation", "Ps"),
   ("closepunctuation", "Pe"), ("initialpunctuation", "Pi"), ("finalpunctuation", "Pf"),
   ("otherpunctuation", "Po"), ("symbol", "S"), ("mathsymbol", "Sm"), ("currencysymbol", "Sc"),
   ("modifiersymbol", "Sk"), ("othersymbol", "So"), ("separator", "Z"),
   ("spaceseparator", "Zs"), ("lineseparator", "Zl"), ("paragraphseparator", "Zp"),
   ("other", "C"), ("control", "Cc"), ("cntrl", "Cc"), ("format", "Cf"), ("surrogate", "Cs"),
   ("privateuse", "Co"), ("unassigned", "Cn")]

/-- The letters of all general categories and groups. -/
def categoryLetters : List String :=
  ["L", "Lu", "Ll", "Lt", "Lm", "Lo", "M", "Mn", "Mc", "Me", "N", "Nd", "Nl", "No", "P", "Pc", "Pd",
   "Ps", "Pe", "Pi", "Pf", "Po", "S", "Sm", "Sc", "Sk", "So", "Z", "Zs", "Zl", "Zp", "C", "Cc",
   "Cf", "Co", "Cn"]

/-- The set of a general category. -/
def categorySet? (name : String) : Option CharSet :=
  if name == "any" then some .full
  else if name == "ascii" then some ⟨[(0, 0x7F)]⟩
  else if name == "assigned" then some (CharSet.ofCategory "Cn").complement
  else if name == "lc" || name == "casedletter" then
    some (.ofRuns Text.categories fun c => c == "Lu" || c == "Ll" || c == "Lt")
  else
    match categoryNames.lookup name with
    | some code => some (.ofCategory code)
    | none => (categoryLetters.find? fun c => c.toLower == name).map .ofCategory

/-- The set of a script. -/
def scriptSet? (name : String) : Option CharSet :=
  let entries := (Text.tableWords Text.scriptNames).map fun entry => entry.splitOn "="
  let found := entries.find? fun entry => entry.any fun n => looseName n.toList == name
  (found.bind List.head?).map fun code =>
    .ofScript (if code == "Qaai" then "Zinh" else if code == "Qaac" then "Copt" else code)

/-- The set of a yes-or-no property. -/
def flagSet? (name : String) : Option CharSet :=
  if name == "alphabetic" || name == "alpha" then
    some (CharSet.union (.ofRuns Text.categories Text.isLetterCode) Text.otherAlphabetic)
  else if name == "uppercase" || name == "upper" then
    some (CharSet.union (.ofCategory "Lu")
      ⟨[(0x2160, 0x216F), (0x24B6, 0x24CF), (0x1F130, 0x1F149), (0x1F150, 0x1F169),
        (0x1F170, 0x1F189)]⟩)
  else if name == "lowercase" || name == "lower" then
    some (CharSet.union (.ofCategory "Ll")
      ⟨[(0xAA, 0xAA), (0xBA, 0xBA), (0x2B0, 0x2B8), (0x2C0, 0x2C1), (0x2E0, 0x2E4), (0x345, 0x345),
        (0x37A, 0x37A), (0x10FC, 0x10FC), (0x1D2C, 0x1D6A), (0x1D78, 0x1D78), (0x1D9B, 0x1DBF),
        (0x2071, 0x2071), (0x207F, 0x207F), (0x2090, 0x209C), (0x2170, 0x217F),
        (0x24D0, 0x24E9), (0x2C7C, 0x2C7D), (0xA69C, 0xA69D), (0xA770, 0xA770),
        (0xA7F2, 0xA7F4), (0xA7F8, 0xA7F9), (0xAB5C, 0xAB5F), (0xAB69, 0xAB69),
        (0x10780, 0x10780), (0x10783, 0x10785), (0x10787, 0x107B0), (0x107B2, 0x107BA),
        (0x1E030, 0x1E06D)]⟩)
  else if name == "whitespace" || name == "wspace" || name == "space" then some .blanks
  else none

/-- The set of a property given by one name. -/
def namedSet? (name : List Char) : Option CharSet :=
  let n := looseName name
  match flagSet? n with
  | some s => some s
  | none =>
    match categorySet? n with
    | some s => some s
    | none => scriptSet? n

/-- The set of a property given by the name of a property and one of its values. -/
def valueSet? (property value : List Char) : Option CharSet :=
  let p := looseName property
  let v := looseName value
  if p == "gc" || p == "generalcategory" then categorySet? v
  else if p == "sc" || p == "script" || p == "scx" || p == "scriptextensions" then scriptSet? v
  else none

end RequestDispatch.Regex

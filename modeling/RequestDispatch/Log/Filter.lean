import RequestDispatch.Json.Printer
import RequestDispatch.Text.Blank
import RequestDispatch.Text.Category
import RequestDispatch.Text.Digits
import RequestDispatch.Trace

/-!
# Log filters

A filter decides which events are logged. It is made of directives: a level for every target, or
for the targets that begin with a name; the directive with the longest name decides. A directive
may also name a span: it then lets events through while such a span is entered.

* `Directive.ofText?` — `info`, `store`, `store=debug`, `store[load]=trace`, `[load{id=7}]`.
* `Filter.allows` — the decision for an event.
-/

set_option autoImplicit false

namespace RequestDispatch.Log

open Trace (Level Span)

/-- The levels a directive lets through: this one and what matters more; none at all without one. -/
abbrev Threshold := Option Level

namespace Threshold

def allows (t : Threshold) (l : Level) : Bool :=
  match t with
  | some limit => l.rank ≤ limit.rank
  | none => false

/-- The level that a word or a number from `0` to `5` stands for. -/
def ofText? (s : String) : Option Threshold :=
  let words : List (String × Threshold) :=
    [("off", none), ("error", some .error), ("warn", some .warn), ("info", some .info),
     ("debug", some .debug), ("trace", some .trace)]
  match Text.signedNumber? 10 s.toList with
  | some k => (words[k]?).map (·.2)
  | none => words.lookup s.toLower

end Threshold

/-- What a directive asks of a span. -/
structure SpanRule where
  /-- The name that the span must have. -/
  name : Option String
  /-- The fields it must have, some with the text of their value. -/
  fields : List (String × Option String)
  deriving DecidableEq, Repr

/-- One rule of a filter. -/
structure Directive where
  threshold : Threshold
  target : Option String := none
  span : Option SpanRule := none
  deriving DecidableEq, Repr

namespace Directive

/-- Whether a directive may begin with the character. -/
def opens (c : Char) : Bool :=
  c == '[' || c == '-' || c == ':' || c == '_' || Text.isAlphanumeric c

/-- The level after a `=`; every level if nothing follows. -/
def readLevel (cs : List Char) : Option Threshold :=
  if cs.isEmpty then some (some .trace) else Threshold.ofText? (String.ofList cs)

/-- The rest of a directive after its span. -/
def readRest (target : Option String) (span : SpanRule) : List Char → Option Directive
  | [] => some ⟨some .trace, target, some span⟩
  | '=' :: level => (readLevel level).map fun t => ⟨t, target, some span⟩
  | _ => none

/-- The span of a directive, from behind its `[`. -/
def readSpan (target : Option String) (cs : List Char) : Option Directive :=
  let (name, rest) := cs.span fun c => c != ']' && c != '\x7b'
  match rest with
  | ']' :: rest => readRest target ⟨some (String.ofList name), []⟩ rest
  | _ :: rest =>
    let (field, rest) := rest.span (· != '\x7d')
    let rule : SpanRule :=
      ⟨if name.isEmpty then none else some (String.ofList name),
        match (String.ofList field).splitOn "=" with
        | [] => []
        | key :: values => [(key, values.head?)]⟩
    match rest with
    | _ :: ']' :: rest => if field.isEmpty then none else readRest target rule rest
    | _ => none
  | [] => none

/-- Reads a directive. Blanks before it are not part of its target, so that with a level it is
refused, and without one it is the name of a target that no event has. -/
def ofText? (s : String) : Option Directive :=
  let cs := s.toList
  let start := cs.dropWhile Text.isBlank
  if !start.head?.any opens then none
  else if start.length < cs.length then
    if cs.contains '=' then none else some { threshold := some .trace, target := some s }
  else
    let (word, rest) := cs.span fun c => c != '=' && c != '['
    let target := String.ofList word
    match rest with
    | '=' :: level => (readLevel level).map fun t => { threshold := t, target := some target }
    | '[' :: rest => readSpan (if word.isEmpty then none else some target) rest
    | _ =>
      match Threshold.ofText? target with
      | some t => some { threshold := t }
      | none => some { threshold := some .trace, target := some target }

/-- Whether the directive is about the target. -/
def covers (d : Directive) (target : String) : Bool :=
  d.target.all fun t => t.toList.isPrefixOf target.toList

/-- Whether the directive is about the span, which was opened under the target. -/
def coversSpan (d : Directive) (target : String) (s : Span) : Bool :=
  match d.span with
  | none => false
  | some rule =>
    d.covers target && rule.name.all (· == s.name) &&
      rule.fields.all fun (key, value) =>
        match s.fields.lookup key with
        | none => false
        | some actual => value.all fun v => v == actual.text?.getD actual.compact

end Directive

/-- A filter: its directives, no two of them for the same targets and spans. -/
structure Filter where
  directives : List Directive := []
  deriving Repr

namespace Filter

/-- The filter with one more directive, which takes the place of one for the same targets. -/
def add (f : Filter) (d : Directive) : Filter :=
  ⟨f.directives.filter (fun e => e.target != d.target || e.span != d.span) ++ [d]⟩

def ofDirectives (ds : List Directive) : Filter := ds.foldl add {}

/-- The directives in a text, separated by commas; none if one of them is not well-formed. -/
def ofText? (s : String) : Option Filter :=
  (((s.splitOn ",").filter fun part => !part.isEmpty).mapM Directive.ofText?).map ofDirectives

/-- How specific the target of a directive is. -/
def specificity (d : Directive) : Nat :=
  match d.target with
  | none => 0
  | some t => t.utf8ByteSize + 1

/-- The more specific of two directives, the first if there is no difference. -/
def moreSpecific (best : Option Directive) (d : Directive) : Option Directive :=
  match best with
  | some b => if specificity b < specificity d then some d else best
  | none => some d

/-- The directive that decides about a target. -/
def deciding (f : Filter) (target : String) : Option Directive :=
  (f.directives.filter fun d => d.span.isNone && d.covers target).foldl moreSpecific none

/-- Whether events of the level are logged under the target, whatever the spans. -/
def allowsAnywhere (f : Filter) (target : String) (l : Level) : Bool :=
  (f.deciding target).any fun d => d.threshold.allows l

/-- The directives about a span. -/
def about (f : Filter) (target : String) (s : Span) : List Directive :=
  f.directives.filter fun d => d.coversSpan target s

/-- Whether a span of the level is recorded: it is allowed like an event, or a directive is about
it. -/
def records (f : Filter) (target : String) (l : Level) (s : Span) : Bool :=
  !(f.about target s).isEmpty || f.allowsAnywhere target l

/-- Whether an event is logged; the spans it happens in are given with their targets. -/
def allows (f : Filter) (spans : List (String × Span)) (target : String) (l : Level) : Bool :=
  f.allowsAnywhere target l ||
    spans.any fun (t, s) => (f.about t s).any fun d => d.threshold.allows l

end Filter

end RequestDispatch.Log

import RequestDispatch.Proofs.Regex.ReadingBody
import RequestDispatch.Proofs.Regex.Run
import RequestDispatch.Route.Pattern

/-!
# Which raw expressions match whole paths only

A raw expression is pasted between `^(?:` and `)$` before it is read.

* `raw_expr`: what comes of that is the expression between the two anchors if the text is an
  expression on its own (`readBody_trim`: its reading does not depend on the bracket behind it).
  The only other texts that are accepted are those that close the pasted group themselves.
* `raw_match_covers`: in the first case a match runs from the first character of a path to the
  last (`Expr.find?_start`, `Expr.find?_stop`), and so it does in the second if both anchors are
  still on every way through the expression.
* `raw_match_stops_early`: otherwise it may not.
-/

set_option autoImplicit false

namespace RequestDispatch.Route

open Regex

/-! ## The expression of a pasted text -/

/-- The first four characters of a pasted text open its group. -/
theorem readBody_open (n : Nat) (cs : List Char) :
    readBody (n + 2) {} ('^' :: '(' :: '?' :: ':' :: cs) [] [] =
      match readBody n {} cs [] [] with
      | .error e => .error e
      | .ok (_, _, []) => .error .unclosedGroup
      | .ok (body, after, _ :: rest) =>
        readBody n { after with flags := {} } rest []
          [⟨body.expr, body.height + 1, true⟩, ⟨.look .textStart, 0, true⟩] := rfl

/-- Behind its group a pasted text has its last anchor. -/
theorem readBody_anchor (n : Nat) (sc : Scope) (body start : Part) :
    readBody (n + 2) { sc with flags := {} } ['$'] [] [body, start] =
      .ok (closeChoice [closeSequence [⟨.look .textEnd, 0, true⟩, body, start]],
        { sc with flags := {} }, []) := rfl

/-- The group of a pasted text is not closed behind the bracket that was put there for it. -/
theorem exists_append_closing_of_read {n : Nat} {sc sc' : Scope} {r rest : List Char} {c : Char}
    {part : Part} (h : readBody n sc (r ++ closing) [] [] = .ok (part, sc', c :: rest)) :
    ∃ v, c :: rest = v ++ closing := by
  obtain rfl := readBody_stops n h
  rcases List.suffix_or_suffix_of_suffix (readBody_suffix n h) (List.suffix_append r closing) with
    hs | ⟨v, hv⟩
  · rcases List.suffix_cons_iff.1 hs with hs | hs
    · exact ⟨[], hs⟩
    · rcases List.suffix_cons_iff.1 hs with hs | hs
      · simp at hs
      · simp at hs
  · exact ⟨v, hv.symm⟩

/-- The text is read up to the bracket that closes its group, and then what is left of it. -/
theorem readPattern_rawExpression_eq (r : List Char) : readPattern (Pattern.rawExpression r) =
    match readBody (r.length + 5) {} (r ++ closing) [] [] with
    | .error e => .error e
    | .ok (_, _, []) => .error .unclosedGroup
    | .ok (body, after, _ :: rest) =>
      match readBody (r.length + 5) { after with flags := {} } rest []
        [⟨body.expr, body.height + 1, true⟩, ⟨.look .textStart, 0, true⟩] with
      | .error e => .error e
      | .ok (part, _, []) => .ok part
      | .ok (_, _, _ :: _) => .error .unopenedGroup := by
  have htext : Pattern.rawExpression r = '^' :: '(' :: '?' :: ':' :: (r ++ closing) := by
    simp [Pattern.rawExpression, closing]
  have hfuel : (Pattern.rawExpression r).length + 1 = (r.length + 5) + 2 := by
    simp [htext, closing]
  rw [readPattern, hfuel, htext, readBody_open]
  cases readBody (r.length + 5) {} (r ++ closing) [] [] with
  | error e => rfl
  | ok x =>
    obtain ⟨body, after, rest⟩ := x
    cases rest <;> rfl

/-- A text that is read between its anchors either is an expression, which then stands between
them, or closes a bracket that it did not open. -/
theorem readPattern_rawExpression {r : List Char} {part : Part}
    (h : readPattern (Pattern.rawExpression r) = .ok part) :
    (∃ body, readPattern r = .ok body ∧
      part.expr = .cat (.look .textStart) (.cat body.expr (.look .textEnd))) ∨
    readPattern r = .error .unopenedGroup := by
  rw [readPattern_rawExpression_eq] at h
  cases hb : readBody (r.length + 5) {} (r ++ closing) [] [] with
  | error e => simp [hb] at h
  | ok x =>
    obtain ⟨body, after, rest⟩ := x
    cases rest with
    | nil => simp [hb] at h
    | cons c rest =>
      obtain ⟨v, hv⟩ := exists_append_closing_of_read hb
      rw [hv] at hb
      have hr := readBody_trim (r.length + 5) (m := r.length + 1) (Nat.lt_succ_self _) hb
      cases v with
      | nil =>
        left
        obtain ⟨rfl, rfl⟩ := List.cons.inj hv
        refine ⟨body, by simp only [readPattern, hr], ?_⟩
        rw [List.nil_append] at hb
        simp only [closing] at hb h
        simp only [hb, readBody_anchor (r.length + 3), Except.ok.injEq] at h
        subst h
        rfl
      | cons d v => exact .inr (by simp only [readPattern, hr])

/-- An accepted raw expression is one on its own, between anchors, or it closes a bracket that it
did not open. -/
theorem raw_expr {r : String} {p : Pattern} (h : Pattern.raw r = .ok p) :
    (∃ body, readPattern r.toList = .ok body ∧
      p.regex.expr = .cat (.look .textStart) (.cat body.expr (.look .textEnd))) ∨
    readPattern r.toList = .error .unopenedGroup := by
  unfold Pattern.raw at h
  split at h
  · simp at h
  · split at h
    · simp at h
    · rename_i regex hc
      obtain rfl := Except.ok.inj h
      obtain ⟨part, hp, he⟩ := compile_eq_ok hc
      rw [String.toList_ofList] at hp
      rw [he]
      exact readPattern_rawExpression hp

/-! ## Matches cover the path -/

/-- A raw expression that closes no bracket that it did not open, or whose every alternative still
passes both anchors, matches whole paths only: the match that captures are taken from starts at the
first character and ends behind the last. -/
theorem raw_match_covers {r : String} {p : Pattern} (h : Pattern.raw r = .ok p)
    (hr : readPattern r.toList ≠ .error .unopenedGroup ∨
      p.regex.expr.requires .textStart = true ∧ p.regex.expr.requires .textEnd = true)
    {path : String} {values : List (String × String)} (hc : p.captures? path = some values) :
    ∃ m, p.regex.find? path.toList = some m ∧
      values = m.named path.toList p.regex.expr.groupNames ∧
      m.start = 0 ∧ m.final.offset = path.toList.length ∧ m.final.after = [] := by
  have hreq : p.regex.expr.requires .textStart = true ∧ p.regex.expr.requires .textEnd = true := by
    rcases hr with hr | hr
    · obtain ⟨body, -, he⟩ := (raw_expr h).resolve_right hr
      simp [he, Expr.requires]
    · exact hr
  obtain ⟨m, hm, hv⟩ := Option.map_eq_some_iff.1 hc
  obtain ⟨hafter, hoffset⟩ := Expr.find?_stop hreq.2 hm
  exact ⟨m, hm, hv.symm, Expr.find?_start hreq.1 hm, hoffset, hafter⟩

theorem raw_match_covers_all : ∃ p m, Pattern.raw "/(?P<id>[0-9]+)|/all" = .ok p ∧
    p.captures? "/all" = some [] ∧ p.regex.find? "/all".toList = some m ∧
    m.start = 0 ∧ m.final.offset = "/all".toList.length := by
  have hr : readPattern "/(?P<id>[0-9]+)|/all".toList ≠ .error .unopenedGroup := fun h =>
    absurd (congrArg Except.isOk h) (by decide +kernel)
  have hc : (Pattern.raw "/(?P<id>[0-9]+)|/all").toOption.bind (·.captures? "/all") = some [] := by
    decide +kernel
  cases hp : Pattern.raw "/(?P<id>[0-9]+)|/all" with
  | error e => simp [hp, Except.toOption] at hc
  | ok p =>
    rw [hp] at hc
    obtain ⟨m, hm, -, hstart, hstop, -⟩ := raw_match_covers hp (.inl hr) hc
    exact ⟨p, m, rfl, hc, hm, hstart, hstop⟩

/-- An expression may close the group that was put around it. Each side of the choice that comes of
it then has one of the two anchors, and the first side matches a path that goes on behind it. -/
theorem raw_match_stops_early : ∃ p m, Pattern.raw "/a)|(?:/b" = .ok p ∧
    p.captures? "/a/x" = some [] ∧ p.regex.find? "/a/x".toList = some m ∧
    m.start = 0 ∧ m.final.offset = 2 ∧ m.final.after = "/x".toList := by
  have h : (Pattern.raw "/a)|(?:/b").toOption.map
      (fun p => (p.captures? "/a/x", p.regex.find? "/a/x".toList)) =
      some (some [], some ⟨0, ⟨['a', '/'], ['/', 'x'], 2, []⟩⟩) := by decide +kernel
  cases hp : Pattern.raw "/a)|(?:/b" with
  | error e => simp [hp, Except.toOption] at h
  | ok p =>
    rw [hp] at h
    obtain ⟨hc, hm⟩ := Prod.mk.inj (Option.some.inj h)
    exact ⟨p, _, rfl, hc, hm, rfl, rfl, by decide⟩

end RequestDispatch.Route

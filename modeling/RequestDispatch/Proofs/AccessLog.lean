import Mathlib.Data.List.Count
import RequestDispatch.AccessLog
import RequestDispatch.Proofs.Http.Form
import RequestDispatch.Proofs.Text.Digits

/-!
# What an access line tells

A line is the text of an `Entry`, whose fields stand between spaces, quotes and the time. Nothing in a
field is escaped, so what stands between two fields may also stand in one.

* `Unmistakable.reads_address`, `Unmistakable.reads_counts`, `Unmistakable.reads_referer`: if no field
  has in it what stands behind it, each is found again, whatever entry the line is taken to be of.
* `Entry.unmistakable_of_unique`: otherwise some field can be read as ending at another place.
* `line_determines_iff`: so a line determines what it records exactly if that is `Unmistakable`, as it
  is if the fields have no spaces and no quotes (`Entry.Plain`).
* `line_mistaken`: a referer may have a quote in it.
-/

set_option autoImplicit false

namespace RequestDispatch.AccessLog

open Http.Form (cut_inj)

/-! ## Entries -/

/-- What a line records of a request and its response. -/
@[ext]
structure Entry where
  /-- The address of the client. -/
  address : String
  method : String
  uri : String
  protocol : String
  status : UInt16
  /-- The length of the body. -/
  length : Nat
  referer : String
  agent : String
  deriving DecidableEq, Repr

namespace Entry

/-- What is recorded; what is not known is `-`. -/
def of (r : Request) (answer : Response) : Entry where
  address := r.remoteAddr.getD "-"
  method := r.method
  uri := r.uri
  protocol := r.protocol
  status := answer.status
  length := answer.body.length
  referer := (r.header? "referer").getD "-"
  agent := (r.header? "user-agent").getD "-"

/-- The line of an entry. -/
def text (e : Entry) (time : String) : String :=
  e.address ++ " - - [" ++ time ++ "] \"" ++ e.method ++ " " ++ e.uri ++ " " ++ e.protocol ++ "\" " ++
    toString e.status.toNat ++ " " ++ toString e.length ++ " \"" ++ e.referer ++ "\" \"" ++ e.agent ++
    "\""

theorem text_of (r : Request) (answer : Response) (time : String) :
    (of r answer).text time = line r answer time := rfl

/-- Every entry is one of a request and a response. -/
theorem exists_of (e : Entry) : ∃ r answer, of r answer = e := by
  let r : Request :=
    { id := ⟨0⟩, method := e.method, path := "", uri := e.uri, protocol := e.protocol
      remoteAddr := some e.address, headers := [("referer", e.referer), ("user-agent", e.agent)]
      query := .empty, cookies := .empty, body := [] }
  have hsame : ∀ name, Http.Header.sameName name name = true := fun name => beq_self_eq_true _
  have hother : Http.Header.sameName "referer" "user-agent" = false := by decide +kernel
  have hreferer : r.header? "referer" = some e.referer := by
    simp [r, Request.header?, Http.Header.find?, hsame]
  have hagent : r.header? "user-agent" = some e.agent := by
    simp [r, Request.header?, Http.Header.find?, hother, hsame]
  refine ⟨r, ⟨e.status, [], List.replicate e.length 0⟩, ?_⟩
  rw [of, hreferer, hagent, List.length_replicate]
  rfl

/-! ## The parts of a line -/

/-- What stands between the address and the method. -/
def mark (time : String) : List Char :=
  [' ', '-', ' ', '-', ' '] ++ '[' :: (time.toList ++ [']', ' ', '"'])

/-- The two numbers of a line, with spaces before, between and after them. -/
def numbers (status : UInt16) (length : Nat) : List Char :=
  ' ' :: ((toString status.toNat).toList ++ ' ' :: ((toString length).toList ++ [' ']))

/-- What stands between the protocol and the referer. -/
def counts (status : UInt16) (length : Nat) : List Char := '"' :: (numbers status length ++ ['"'])

/-- What stands between the referer and the agent. -/
def between : List Char := ['"', ' ', '"']

/-- The request line. -/
def requestLine (e : Entry) : List Char :=
  e.method.toList ++ ' ' :: (e.uri.toList ++ ' ' :: e.protocol.toList)

/-- What stands behind the mark, without the quote at the end. -/
def body (e : Entry) : List Char :=
  e.requestLine ++ (counts e.status e.length ++
    (e.referer.toList ++ (between ++ e.agent.toList)))

theorem toList_text (e : Entry) (time : String) :
    (e.text time).toList = e.address.toList ++ (mark time ++ e.body) ++ ['"'] := by
  -- by `delta`, as the equation of `text` would be derived by computing with appended strings
  delta text
  simp [mark, body, requestLine, counts, numbers, between]

theorem text_eq_iff {e f : Entry} {time : String} : f.text time = e.text time ↔
    f.address.toList ++ (mark time ++ f.body) = e.address.toList ++ (mark time ++ e.body) := by
  rw [← String.toList_inj, toList_text, toList_text, List.append_left_inj]

theorem count_requestLine (e : Entry) : e.requestLine.count ' ' =
    e.method.toList.count ' ' + e.uri.toList.count ' ' + e.protocol.toList.count ' ' + 2 := by
  simp only [requestLine, List.count_append, List.count_cons_self]
  omega

/-! ## Where the parts can be found -/

/-- A word that does not overlap itself. -/
def Borderless (w : List Char) : Prop :=
  ∀ front back, w = front ++ back → back <+: w → front = [] ∨ back = []

/-- Such a word is found again only behind itself. -/
theorem Borderless.exists_append {w : List Char} (hw : Borderless w) {d xs ys : List Char}
    (h : w ++ xs = d ++ (w ++ ys)) (hd : d ≠ []) : ∃ d', d = w ++ d' ∧ xs = d' ++ (w ++ ys) := by
  rcases List.append_eq_append_iff.1 h with hlong | ⟨back, hw', hback⟩
  · exact hlong
  · have hprefix : back <+: w := by
      refine List.prefix_of_prefix_length_le ⟨xs, hback.symm⟩ (List.prefix_append w ys) ?_
      rw [hw', List.length_append]
      omega
    rcases hw d back hw' hprefix with hnil | rfl
    · exact absurd hnil hd
    · rw [List.append_nil] at hw'
      rw [hw'] at hback ⊢
      exact ⟨[], (List.append_nil d).symm, hback.symm⟩

theorem borderless_mark {time : String} (h : '[' ∉ time.toList) : Borderless (mark time) := by
  have hplace : '[' ∉ [' ', '-', ' ', '-', ' '] := by decide
  have hbehind : '[' ∉ time.toList ++ [']', ' ', '"'] := by simpa using h
  intro front back hw ⟨rest, hprefix⟩
  by_cases hmem : '[' ∈ back
  · -- the only bracket is at one place, so nothing stands in front of `back`
    left
    obtain ⟨before, after, rfl⟩ := List.append_of_mem hmem
    rw [mark, ← List.append_assoc] at hw
    rw [mark, List.append_assoc, List.cons_append] at hprefix
    obtain ⟨hfront, -⟩ := (List.append_cons_inj_of_notMem hplace hbehind).1 hw
    obtain ⟨hbefore, -⟩ := (List.append_cons_inj_of_notMem hplace hbehind).1 hprefix.symm
    rw [← hbefore] at hfront
    simpa using hfront
  · -- `back` stands in front of the bracket, but it ends with the quote at the end
    by_contra hnone
    have hback : back ≠ [] := fun hnil => hnone (.inr hnil)
    have hlast : back.getLast? = some '"' := by
      have hmark : (mark time).getLast? = some '"' := by simp [mark, List.getLast?_cons]
      rwa [hw, List.getLast?_append, Option.or_of_isSome (List.getLast?_isSome.2 hback)] at hmark
    have hquote := List.mem_of_getLast? hlast
    rcases List.append_eq_append_iff.1 hprefix with ⟨behind, hdash, -⟩ | ⟨behind, rfl, hbracket⟩
    · have hall : '"' ∈ [' ', '-', ' ', '-', ' '] := hdash ▸ List.mem_append_left _ hquote
      exact absurd hall (by decide)
    · cases behind with
      | nil =>
        rw [List.append_nil] at hquote
        exact absurd hquote (by decide)
      | cons c behind =>
        obtain ⟨rfl, -⟩ := List.cons.inj hbracket
        exact hmem (by simp)

theorem between_overlap {d xs ys : List Char} (h : between ++ xs = d ++ (between ++ ys)) :
    d = [] ∨ (d = ['"', ' '] ∧ xs = ' ' :: '"' :: ys) ∨
      ∃ d', d = between ++ d' ∧ xs = d' ++ (between ++ ys) := by
  match d with
  | [] => exact .inl rfl
  | [c] => simp [between] at h
  | [c, c'] =>
    simp only [between, List.cons_append, List.nil_append, List.cons.injEq] at h
    obtain ⟨rfl, rfl, -, rfl⟩ := h
    exact .inr (.inl ⟨rfl, rfl⟩)
  | c :: c' :: c'' :: d' =>
    simp only [between, List.cons_append, List.nil_append, List.cons.injEq] at h
    obtain ⟨rfl, rfl, rfl, hxs⟩ := h
    exact .inr (.inr ⟨d', rfl, hxs⟩)

theorem exists_append_of_not_mem {sep : Char} {xs ys rest rest' : List Char} (hxs : sep ∉ xs)
    (h : xs ++ sep :: rest = ys ++ sep :: rest') :
    ∃ d, ys = xs ++ d ∧ sep :: rest = d ++ sep :: rest' := by
  rcases List.append_eq_append_iff.1 h with hlong | ⟨d, hd, hbehind⟩
  · exact hlong
  · cases d with
    | nil => exact ⟨[], by rw [hd, List.append_nil, List.append_nil], hbehind.symm⟩
    | cons c d =>
      obtain ⟨rfl, -⟩ := List.cons.inj hbehind
      exact absurd (by rw [hd]; simp) hxs

theorem quote_not_mem_numbers (status : UInt16) (length : Nat) : '"' ∉ numbers status length := by
  have hdigits := Text.not_mem_toString (c := '"') (by decide)
  simp only [numbers, List.mem_cons, List.mem_append, hdigits]
  decide

theorem counts_inj {status status' : UInt16} {length length' : Nat} {xs ys : List Char}
    (h : counts status length ++ xs = counts status' length' ++ ys) :
    status = status' ∧ length = length' ∧ xs = ys := by
  have hdigits := Text.not_mem_toString (c := ' ') (by decide)
  simp only [counts, numbers, List.cons_append, List.append_assoc, List.cons.injEq, true_and] at h
  obtain ⟨hstatus, h⟩ := cut_inj (hdigits _) (hdigits _) h
  obtain ⟨hlength, h⟩ := cut_inj (hdigits _) (hdigits _) h
  exact ⟨UInt16.toNat_inj.1 (Text.toString_inj hstatus), Text.toString_inj hlength,
    (List.cons.inj h).2⟩

theorem eq_nil_of_counts {status status' : UInt16} {length length' : Nat} {d xs ys : List Char}
    (h : counts status' length' ++ ys = d ++ (counts status length ++ xs)) (hd : ' ' ∉ d) :
    d = [] := by
  match d with
  | [] => rfl
  | [c] => simp [counts, numbers] at h
  | c :: c' :: d' =>
    simp only [counts, numbers, List.cons_append, List.cons.injEq] at h
    obtain ⟨-, rfl, -⟩ := h
    exact absurd (List.mem_cons_of_mem c List.mem_cons_self) hd

/-! ## Entries whose lines are read in one way -/

/-- No field of the entry has in it what stands behind the field in a line. -/
structure Unmistakable (time : String) (e : Entry) : Prop where
  address : ¬ mark time <:+: e.address.toList
  method : ' ' ∉ e.method.toList
  uri : ' ' ∉ e.uri.toList
  protocol : ' ' ∉ e.protocol.toList
  /-- There is no pair of numbers in the referer, nor one that begins at the quote before it. -/
  numbers : ∀ status length, ¬ counts status length <:+: '"' :: e.referer.toList
  referer : ¬ between <:+: e.referer.toList
  /-- Nor does the referer end with the first two characters of it. -/
  referer_end : ¬ ['"', ' '] <:+ e.referer.toList
  agent : ¬ between <:+: e.agent.toList
  /-- Nor does the agent begin with the last two characters of it. -/
  agent_start : ¬ [' ', '"'] <+: e.agent.toList

namespace Unmistakable

variable {time : String} {e : Entry}

theorem reads_referer (h : e.Unmistakable time) {r a : List Char}
    (heq : r ++ (between ++ a) = e.referer.toList ++ (between ++ e.agent.toList)) :
    r = e.referer.toList ∧ a = e.agent.toList := by
  have hr : r = e.referer.toList := by
    rcases List.append_eq_append_iff.1 heq with ⟨d, hd, hbehind⟩ | ⟨d, hd, hbehind⟩
    · rcases between_overlap hbehind with rfl | ⟨rfl, -⟩ | ⟨d', rfl, -⟩
      · rw [hd, List.append_nil]
      · exact absurd ⟨r, hd.symm⟩ h.referer_end
      · exact absurd ⟨r, d', by rw [hd, List.append_assoc]⟩ h.referer
    · rcases between_overlap hbehind with rfl | ⟨-, hagent⟩ | ⟨d', -, hagent⟩
      · rw [hd, List.append_nil]
      · exact absurd ⟨a, hagent.symm⟩ h.agent_start
      · exact absurd ⟨d', a, by rw [hagent, List.append_assoc]⟩ h.agent
  rw [hr] at heq
  exact ⟨hr, List.append_cancel_left (List.append_cancel_left heq)⟩

/-- Behind the numbers of the entry no others can be taken for them. -/
theorem no_later (h : e.Unmistakable time) {d r a : List Char} {status : UInt16} {length : Nat}
    (heq : counts e.status e.length ++ (e.referer.toList ++ (between ++ e.agent.toList)) =
      d ++ (counts status length ++ (r ++ (between ++ a)))) : d = [] := by
  cases d with
  | nil => rfl
  | cons c d =>
    exfalso
    obtain ⟨d, hbehind⟩ : ∃ d, '"' :: (e.referer.toList ++ (between ++ e.agent.toList)) =
        d ++ (counts status length ++ (r ++ (between ++ a))) := by
      simp only [counts, List.cons_append, List.append_assoc, List.nil_append] at heq ⊢
      obtain ⟨d, -, hd⟩ :=
        exists_append_of_not_mem (quote_not_mem_numbers _ _) (List.cons.inj heq).2
      exact ⟨d, hd⟩
    obtain ⟨front, hfront⟩ : ∃ front, d ++ counts status length = '"' :: front := by
      cases d with
      | nil => exact ⟨_, rfl⟩
      | cons c d => exact ⟨_, by rw [(List.cons.inj hbehind).1]; rfl⟩
    -- so the other numbers and the other referer stand in the referer
    rw [← List.append_assoc d, hfront, List.cons_append, ← List.append_assoc front] at hbehind
    obtain ⟨hreferer, -⟩ := h.reads_referer (List.cons.inj hbehind).2.symm
    exact h.numbers status length ⟨d, r, by rw [hfront, List.cons_append, hreferer]⟩

theorem count_requestLine_eq (h : e.Unmistakable time) : e.requestLine.count ' ' = 2 := by
  rw [count_requestLine, List.count_eq_zero_of_not_mem h.method, List.count_eq_zero_of_not_mem h.uri,
    List.count_eq_zero_of_not_mem h.protocol]

/-- The numbers are found again behind any words that there are enough of for a request line. -/
theorem reads_counts (h : e.Unmistakable time) {w r a : List Char} {status : UInt16} {length : Nat}
    (hw : 2 ≤ w.count ' ')
    (heq : w ++ (counts status length ++ (r ++ (between ++ a))) = e.body) :
    w = e.requestLine ∧ status = e.status ∧ length = e.length ∧ r = e.referer.toList ∧
      a = e.agent.toList := by
  have hspaces := h.count_requestLine_eq
  have hline : w = e.requestLine := by
    rcases List.append_eq_append_iff.1 heq with ⟨d, hd, hbehind⟩ | ⟨d, hd, hbehind⟩
    · rw [hd, List.count_append] at hspaces
      have hnone : ' ' ∉ d := List.count_eq_zero.1 (by omega)
      rw [hd, eq_nil_of_counts hbehind hnone, List.append_nil]
    · rw [hd, h.no_later hbehind, List.append_nil]
  rw [hline] at heq
  obtain ⟨hstatus, hlength, hrest⟩ := counts_inj (List.append_cancel_left heq)
  exact ⟨hline, hstatus, hlength, h.reads_referer hrest⟩

theorem reads_requestLine (h : e.Unmistakable time) {f : Entry} (heq : f.requestLine = e.requestLine) :
    f.method = e.method ∧ f.uri = e.uri ∧ f.protocol = e.protocol := by
  have hspaces := congrArg (List.count ' ') heq
  rw [count_requestLine, h.count_requestLine_eq] at hspaces
  have hmethod : ' ' ∉ f.method.toList := List.count_eq_zero.1 (by omega)
  have huri : ' ' ∉ f.uri.toList := List.count_eq_zero.1 (by omega)
  obtain ⟨hmethod, hrest⟩ := cut_inj hmethod h.method heq
  obtain ⟨huri, hprotocol⟩ := cut_inj huri h.uri hrest
  exact ⟨String.toList_inj.1 hmethod, String.toList_inj.1 huri, String.toList_inj.1 hprotocol⟩

/-- The address ends at the first mark, as there is none in it and too few spaces behind it for
another. -/
theorem reads_address (h : e.Unmistakable time) (htime : '[' ∉ time.toList) {f : Entry}
    (heq : f.text time = e.text time) : f.address = e.address ∧ f.body = e.body := by
  have hmark := borderless_mark htime
  rw [text_eq_iff] at heq
  have haddress : f.address.toList = e.address.toList := by
    rcases List.append_eq_append_iff.1 heq with ⟨d, hd, hbehind⟩ | ⟨d, hd, hbehind⟩
    · by_cases hnil : d = []
      · rw [hd, hnil, List.append_nil]
      · obtain ⟨d', rfl, -⟩ := hmark.exists_append hbehind hnil
        exact absurd ⟨f.address.toList, d', by rw [hd, List.append_assoc]⟩ h.address
    · by_cases hnil : d = []
      · rw [hd, hnil, List.append_nil]
      · obtain ⟨d', -, hbody⟩ := hmark.exists_append hbehind hnil
        have hspaces : 2 < (d' ++ mark time ++ f.requestLine).count ' ' := by
          have hpos : 0 < (mark time).count ' ' := List.count_pos_iff.2 (by simp [mark])
          rw [List.count_append, List.count_append, count_requestLine]
          omega
        have hread : d' ++ mark time ++ f.requestLine ++ (counts f.status f.length ++
            (f.referer.toList ++ (between ++ f.agent.toList))) = e.body := by
          rw [hbody, body]
          simp only [List.append_assoc]
        rw [(h.reads_counts hspaces.le hread).1, h.count_requestLine_eq] at hspaces
        exact absurd hspaces (Nat.lt_irrefl 2)
  rw [haddress] at heq
  exact ⟨String.toList_inj.1 haddress, List.append_cancel_left (List.append_cancel_left heq)⟩

theorem eq_of_text_eq (h : e.Unmistakable time) (htime : '[' ∉ time.toList) {f : Entry}
    (heq : f.text time = e.text time) : f = e := by
  obtain ⟨haddress, hbody⟩ := h.reads_address htime heq
  have hspaces : 2 ≤ f.requestLine.count ' ' := by
    rw [count_requestLine]
    exact Nat.le_add_left 2 _
  obtain ⟨hline, hstatus, hlength, hreferer, hagent⟩ := h.reads_counts hspaces hbody
  obtain ⟨hmethod, huri, hprotocol⟩ := h.reads_requestLine hline
  exact Entry.ext haddress hmethod huri hprotocol hstatus hlength (String.toList_inj.1 hreferer)
    (String.toList_inj.1 hagent)

end Unmistakable

/-! ## Entries whose lines are also those of others -/

section
variable {time : String} {e : Entry} (h : ∀ f : Entry, f.text time = e.text time → f = e)
include h

/-- The request line of an entry that is alone with its text is read in one way. -/
theorem requestLine_unique {m u p : List Char}
    (heq : m ++ ' ' :: (u ++ ' ' :: p) = e.requestLine) :
    m = e.method.toList ∧ u = e.uri.toList ∧ p = e.protocol.toList := by
  let f : Entry :=
    { e with method := String.ofList m, uri := String.ofList u, protocol := String.ofList p }
  have hline : f.requestLine = e.requestLine := by simpa [f, requestLine] using heq
  have hf : f = e := h f (text_eq_iff.2 (by rw [body, hline]; rfl))
  refine ⟨?_, ?_, ?_⟩
  · rw [← hf, String.toList_ofList]
  · rw [← hf, String.toList_ofList]
  · rw [← hf, String.toList_ofList]

/-- So are its numbers. -/
theorem counts_unique {p r : List Char} {status : UInt16} {length : Nat}
    (heq : p ++ (counts status length ++ r) =
      e.protocol.toList ++ (counts e.status e.length ++ e.referer.toList)) :
    p = e.protocol.toList := by
  let f : Entry :=
    { e with protocol := String.ofList p, status, length, referer := String.ofList r }
  have hbody : f.body = e.body := by
    simpa [f, body, requestLine] using congrArg (· ++ (between ++ e.agent.toList)) heq
  have hf : f = e := h f (text_eq_iff.2 (by rw [hbody]))
  rw [← hf, String.toList_ofList]

/-- So is what stands behind the numbers. -/
theorem referer_unique {r a : List Char}
    (heq : r ++ (between ++ a) = e.referer.toList ++ (between ++ e.agent.toList)) :
    r = e.referer.toList := by
  let f : Entry := { e with referer := String.ofList r, agent := String.ofList a }
  have hbody : f.body = e.body := by simpa [f, body, requestLine] using heq
  have hf : f = e := h f (text_eq_iff.2 (by rw [hbody]))
  rw [← hf, String.toList_ofList]

theorem unmistakable_of_unique : e.Unmistakable time where
  address := by
    rintro ⟨x, y, hxy⟩
    let f : Entry :=
      { e with address := String.ofList x, method := String.ofList (y ++ (mark time ++ e.method.toList)) }
    have hf : f = e := h f (text_eq_iff.2 (by simp [f, body, requestLine, ← hxy]))
    have haddress : x = e.address.toList := by rw [← hf, String.toList_ofList]
    rw [← haddress, List.append_assoc, List.append_right_eq_self] at hxy
    simp [mark] at hxy
  method hspace := by
    obtain ⟨x, y, hxy⟩ := List.append_of_mem hspace
    have hmethod := (requestLine_unique h (m := x) (u := y ++ ' ' :: e.uri.toList)
      (p := e.protocol.toList) (by simp [requestLine, hxy])).1
    rw [← hmethod, List.self_eq_append_right] at hxy
    exact List.cons_ne_nil _ _ hxy
  uri hspace := by
    obtain ⟨x, y, hxy⟩ := List.append_of_mem hspace
    have huri := (requestLine_unique h (m := e.method.toList) (u := x)
      (p := y ++ ' ' :: e.protocol.toList) (by simp [requestLine, hxy])).2.1
    rw [← huri, List.self_eq_append_right] at hxy
    exact List.cons_ne_nil _ _ hxy
  protocol hspace := by
    obtain ⟨x, y, hxy⟩ := List.append_of_mem hspace
    have huri := (requestLine_unique h (m := e.method.toList) (u := e.uri.toList ++ ' ' :: x)
      (p := y) (by simp [requestLine, hxy])).2.1
    rw [List.append_right_eq_self] at huri
    exact List.cons_ne_nil _ _ huri
  numbers status length := by
    rintro ⟨x, y, hxy⟩
    have hprotocol := counts_unique h
      (p := e.protocol.toList ++ '"' :: (Entry.numbers e.status e.length ++ x)) (r := y)
      (by simpa [counts] using hxy)
    rw [List.append_right_eq_self] at hprotocol
    exact List.cons_ne_nil _ _ hprotocol
  referer := by
    rintro ⟨x, y, hxy⟩
    have hreferer := referer_unique h (r := x) (a := y ++ (between ++ e.agent.toList)) (by simp [← hxy])
    rw [← hreferer, List.append_assoc, List.append_right_eq_self] at hxy
    simp [between] at hxy
  referer_end := by
    rintro ⟨x, hx⟩
    have hreferer := referer_unique h (r := x) (a := ' ' :: '"' :: e.agent.toList)
      (by simp [between, ← hx])
    rw [← hreferer, List.append_right_eq_self] at hx
    exact List.cons_ne_nil _ _ hx
  agent := by
    rintro ⟨x, y, hxy⟩
    have hreferer := referer_unique h (r := e.referer.toList ++ (between ++ x)) (a := y)
      (by simp [← hxy])
    simp [between] at hreferer
  agent_start := by
    rintro ⟨y, hy⟩
    have hreferer := referer_unique h (r := e.referer.toList ++ ['"', ' ']) (a := y)
      (by simp [between, ← hy])
    rw [List.append_right_eq_self] at hreferer
    exact List.cons_ne_nil _ _ hreferer

end

/-- Among the entries whose lines have the time, just the unmistakable ones are alone with their
text. -/
theorem unique_iff_unmistakable {time : String} {e : Entry} (htime : '[' ∉ time.toList) :
    (∀ f : Entry, f.text time = e.text time → f = e) ↔ e.Unmistakable time :=
  ⟨unmistakable_of_unique, fun h _ heq => h.eq_of_text_eq htime heq⟩

/-! ## Entries without spaces and quotes -/

/-- Fields before the numbers have no spaces, and fields behind them no quotes. -/
structure Plain (e : Entry) : Prop where
  address : ' ' ∉ e.address.toList
  method : ' ' ∉ e.method.toList
  uri : ' ' ∉ e.uri.toList
  protocol : ' ' ∉ e.protocol.toList
  referer : '"' ∉ e.referer.toList
  agent : '"' ∉ e.agent.toList

theorem Plain.unmistakable {e : Entry} (h : e.Plain) (time : String) : e.Unmistakable time where
  address hmark := h.address (hmark.subset (by simp [mark]))
  method := h.method
  uri := h.uri
  protocol := h.protocol
  numbers status length hcounts := by
    have htwo : 2 ≤ (counts status length).count '"' := by simp [counts, List.count_append]
    have hle := htwo.trans (hcounts.sublist.count_le '"')
    rw [List.count_cons_self, List.count_eq_zero_of_not_mem h.referer] at hle
    omega
  referer hbetween := h.referer (hbetween.subset (by simp [between]))
  referer_end hend := h.referer (hend.subset (by simp))
  agent hbetween := h.agent (hbetween.subset (by simp [between]))
  agent_start hstart := h.agent (hstart.subset (by simp))

end Entry

/-! ## Times -/

theorem bracket_not_mem_monthName (i : Nat) : '[' ∉ (Time.monthNames.getD i "").toList := by
  have hnames : ∀ name ∈ "" :: Time.monthNames, '[' ∉ name.toList := by decide +kernel
  refine hnames _ ?_
  rw [List.getD_eq_getElem?_getD]
  cases hi : Time.monthNames[i]? with
  | none => exact List.mem_cons_self
  | some name => exact List.mem_cons_of_mem "" (List.mem_of_getElem? hi)

theorem bracket_not_mem_yearText (year : Int) : '[' ∉ (Time.yearText year).toList := by
  have hpadded := Text.not_mem_padded (c := '[') (by decide)
  unfold Time.yearText
  split
  · exact hpadded 4 _
  · split <;> simp [hpadded]

theorem bracket_not_mem_offsetText (offset : Int) : '[' ∉ (Time.offsetText offset).toList := by
  have hpadded := Text.not_mem_padded (c := '[') (by decide)
  unfold Time.offsetText
  split <;> simp [hpadded]

theorem bracket_not_mem_time (t : Time) : '[' ∉ t.text.toList := by
  have hpadded := Text.not_mem_padded (c := '[') (by decide)
  simp only [Time.text, String.toList_append, List.mem_append, hpadded, bracket_not_mem_monthName,
    bracket_not_mem_yearText, bracket_not_mem_offsetText]
  decide

/-! ## Lines -/

/-- A line determines what it records exactly if that cannot be mistaken for anything else; in
particular if no field before the numbers has a space and none behind them a quote. -/
theorem line_determines_iff (r : Request) (answer : Response) (t : Time) :
    ((∀ r' answer', line r' answer' t.text = line r answer t.text →
        Entry.of r' answer' = Entry.of r answer) ↔ (Entry.of r answer).Unmistakable t.text) ∧
      ((Entry.of r answer).Plain → (Entry.of r answer).Unmistakable t.text) := by
  refine ⟨?_, fun hplain => hplain.unmistakable t.text⟩
  rw [← Entry.unique_iff_unmistakable (bracket_not_mem_time t)]
  simp only [← Entry.text_of]
  constructor
  · intro h f heq
    obtain ⟨r', answer', rfl⟩ := Entry.exists_of f
    exact h r' answer' heq
  · exact fun h r' answer' heq => h (Entry.of r' answer') heq

/-- A request for `/` with headers. -/
def visit (headers : List (String × String)) : Request :=
  { id := ⟨0⟩, method := "GET", path := "/", uri := "/", protocol := "HTTP/1.1", remoteAddr := none
    headers, query := .empty, cookies := .empty, body := [] }

/-- A referer with quotes in it reads as another referer and another agent. -/
theorem line_mistaken :
    let forged := visit [("Referer", "-\" \"curl/8.0"), ("User-Agent", "bot")]
    let other := visit [("User-Agent", "curl/8.0\" \"bot")]
    let time := Time.text ⟨2026, 10, 18, 9, 5, 3, 7200⟩
    line forged ⟨200, [], []⟩ time = line other ⟨200, [], []⟩ time ∧
      (Entry.of forged ⟨200, [], []⟩).referer = "-\" \"curl/8.0" ∧
      (Entry.of other ⟨200, [], []⟩).referer = "-" := by
  decide +kernel

end RequestDispatch.AccessLog

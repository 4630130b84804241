import RequestDispatch.Http.Wire

/-!
# Header lines that stay one line each

A header is written as its name, a colon and its value, and a line break in either would make two
lines of it. `headerLines` leaves out the headers whose values have line breaks.

* `exists_of_mem_headerLines`: each line that is left has a line break exactly if the name of its
  header has one (`hasLineBreak_headerLine?`).
* `oneLineEach_iff`: so a response is sent as one line for each header at most, whatever lines the
  process kept before, exactly if no name has a line break where the value has none.
* `oneLineEach_applySink`: for what a handler or a worker sets in a sink, this is a condition on
  the sink.
* `headerLines_name_with_break`: names are not looked at, so it can fail.
-/

set_option autoImplicit false

namespace RequestDispatch.Http

/-! ## Line breaks -/

theorem hasLineBreak_append (a b : String) :
    hasLineBreak (a ++ b) = (hasLineBreak a || hasLineBreak b) := by
  simp [hasLineBreak]

theorem toLower_eq_of_lt {c d : Char} (hd : d.toNat < 65) : c.toLower = d ↔ c = d := by
  unfold Char.toLower
  split
  · rename_i h
    have h65 : 65 ≤ c.val.toNat := UInt32.le_iff_toNat_le.1 h.1
    have h90 : c.val.toNat ≤ 90 := UInt32.le_iff_toNat_le.1 h.2
    have hval : (c.val + ('a'.val - 'A'.val)).toNat = c.val.toNat + 32 := by
      rw [UInt32.toNat_add]
      exact Nat.mod_eq_of_lt (by change c.val.toNat + 32 < _; omega)
    constructor
    · rintro rfl
      change (c.val + ('a'.val - 'A'.val)).toNat < 65 at hd
      omega
    · rintro rfl
      change c.val.toNat < 65 at hd
      omega
  · rfl

/-- A name has a line break in it whatever the case of its letters. -/
theorem hasLineBreak_lower (s : String) : hasLineBreak (Header.lower s) = hasLineBreak s := by
  unfold hasLineBreak Header.lower
  rw [String.toList_ofList, List.any_map]
  congr 1
  funext c
  have hr : (c.toLower == '\r') = (c == '\r') :=
    Bool.eq_iff_iff.2 (by simpa using toLower_eq_of_lt (by decide))
  have hn : (c.toLower == '\n') = (c == '\n') :=
    Bool.eq_iff_iff.2 (by simpa using toLower_eq_of_lt (by decide))
  simp only [Function.comp_apply, hr, hn]

/-- Lines without line breaks are as many lines when they are sent. -/
theorem count_joinLines {c : Char} (hc : c = '\r' ∨ c = '\n') {lines : List String}
    (h : ∀ l ∈ lines, hasLineBreak l = false) : (joinLines lines).toList.count c = lines.length := by
  induction lines with
  | nil => simp [joinLines]
  | cons l lines ih =>
    have hl : l.toList.count c = 0 := by
      have := h l (.head _)
      simp only [hasLineBreak, List.any_eq_false, Bool.or_eq_true, beq_iff_eq, not_or] at this
      refine List.count_eq_zero.2 fun hm => ?_
      rcases hc with rfl | rfl
      · exact (this _ hm).1 rfl
      · exact (this _ hm).2 rfl
    have hend : ("\r\n".toList.count c) = 1 := by rcases hc with rfl | rfl <;> decide
    have ih := ih fun l' hl' => h l' (.tail _ hl')
    simp only [joinLines, List.map_cons, String.join_cons, String.toList_append, List.count_append]
      at ih ⊢
    rw [hl, hend, ih, List.length_cons]
    omega

/-! ## The lines of headers -/

theorem LineTable.keep_fst {t : LineTable} {line l : String} (h : (t.keep line).1 = some l) :
    l = line := by
  unfold LineTable.keep at h
  split at h
  · exact (Option.some.inj h).symm
  · split at h
    · simp at h
    · exact (Option.some.inj h).symm

theorem LineTable.mem_keep {t : LineTable} {line l : String} (h : l ∈ t.lines) :
    l ∈ (t.keep line).2.lines := by
  unfold LineTable.keep
  split
  · exact h
  · split
    · exact h
    · exact .tail _ h

theorem mem_headerLine? {t : LineTable} {name value l : String} (h : l ∈ t.lines) :
    l ∈ (headerLine? t name value).2.lines := by
  unfold headerLine?
  simp only
  split
  · exact h
  · split
    · exact h
    · split
      · exact h
      · exact LineTable.mem_keep h

/-- Behind a value without line breaks, the line of a header has one where its name has one: the
lines that are written in full are those of names without. -/
theorem hasLineBreak_headerLine? {t : LineTable} {name value l : String}
    (hv : hasLineBreak value = false) (h : (headerLine? t name value).1 = some l) :
    hasLineBreak l = hasLineBreak name := by
  have hkey : Header.lower name = "content-type" → hasLineBreak name = false := fun hk => by
    rw [← hasLineBreak_lower, hk]
    decide
  unfold headerLine? at h
  simp only at h
  split at h
  · rename_i hk
    rw [hkey hk.1, ← Option.some.inj h]
    decide
  · split at h
    · rename_i hk
      rw [hkey hk.1, ← Option.some.inj h]
      decide
    · split at h
      · simp at h
      · have hcolon : hasLineBreak ": " = false := by decide
        rw [LineTable.keep_fst h, hasLineBreak_append, hasLineBreak_append, hv, hcolon,
          Bool.or_false, Bool.or_false]

theorem headerLines_length (hs : List (String × String)) :
    ∀ (t : LineTable), (headerLines t hs).1.length ≤ hs.length := by
  induction hs with
  | nil => intro t; exact Nat.le_refl 0
  | cons h hs ih =>
    intro t
    obtain ⟨name, value⟩ := h
    unfold headerLines
    split
    · exact Nat.le_succ_of_le (ih t)
    · have hone : (headerLine? t name value).1.toList.length ≤ 1 := by
        cases (headerLine? t name value).1 <;> simp
      have := ih (headerLine? t name value).2
      simp only [List.length_append, List.length_cons]
      omega

/-- A line comes from a header whose value has no line break, and has one where the name has. -/
theorem exists_of_mem_headerLines {l : String} {hs : List (String × String)} :
    ∀ {t : LineTable}, l ∈ (headerLines t hs).1 →
      ∃ h ∈ hs, hasLineBreak h.2 = false ∧ hasLineBreak l = hasLineBreak h.1 := by
  induction hs with
  | nil => intro t h; simp [headerLines] at h
  | cons h hs ih =>
    intro t hl
    obtain ⟨name, value⟩ := h
    unfold headerLines at hl
    split at hl
    · obtain ⟨h, hm, hh⟩ := ih hl
      exact ⟨h, .tail _ hm, hh⟩
    · rename_i hv
      have hv : hasLineBreak value = false := by simpa using hv
      rcases List.mem_append.1 hl with hl | hl
      · rw [Option.mem_toList] at hl
        exact ⟨(name, value), .head _, hv, hasLineBreak_headerLine? hv hl⟩
      · obtain ⟨h, hm, hh⟩ := ih hl
        exact ⟨h, .tail _ hm, hh⟩

/-- A header of a name of its own is sent, if its value has no line break and its line is kept
already. -/
theorem mem_headerLines {name value : String} (hn : hasLineBreak name = true)
    (hv : hasLineBreak value = false) {hs : List (String × String)} :
    ∀ {t : LineTable}, name ++ ": " ++ value ∈ t.lines → (name, value) ∈ hs →
      name ++ ": " ++ value ∈ (headerLines t hs).1 := by
  induction hs with
  | nil => intro t _ h; simp at h
  | cons h hs ih =>
    intro t ht hm
    unfold headerLines
    rcases List.mem_cons.1 hm with rfl | hm
    · -- none of the names that are treated in a way of their own has a line break
      have hkey : ∀ {k : String}, hasLineBreak k = false → Header.lower name ≠ k := fun hk h => by
        rw [← h, hasLineBreak_lower, hn] at hk
        simp at hk
      have hline : headerLine? t name value = (some (name ++ ": " ++ value), t) := by
        have hc := hkey (k := "content-type") (by decide)
        have hl := hkey (k := "content-length") (by decide)
        have hd := hkey (k := "date") (by decide)
        have hs := hkey (k := "server") (by decide)
        simp [headerLine?, LineTable.keep, hc, hl, hd, hs, ht]
      simp [hv, hline]
    · split
      · exact ih ht hm
      · exact List.mem_append_right _ (ih (mem_headerLine? ht) hm)

/-! ## Responses -/

/-- Whatever lines were kept before, each header of a response becomes one line at most. -/
def OneLineEach (headers : List (String × String)) : Prop :=
  ∀ t : LineTable, (∀ l ∈ (headerLines t headers).1, hasLineBreak l = false) ∧
    ∀ c, c = '\r' ∨ c = '\n' →
      (joinLines (headerLines t headers).1).toList.count c ≤ headers.length

/-- The names decide: a header whose name has a line break must not be sent, and all that keeps it
from being sent is a line break in its value. -/
theorem oneLineEach_iff (r : Response) : OneLineEach r.headers ↔
    ∀ h ∈ r.headers, hasLineBreak h.1 = true → hasLineBreak h.2 = true := by
  constructor
  · intro hr h hm hn
    cases hv : hasLineBreak h.2 with
    | true => rfl
    | false =>
      have hl := mem_headerLines hn hv (t := ⟨[h.1 ++ ": " ++ h.2]⟩) (.head _) hm
      have hclean := (hr _).1 _ hl
      rw [hasLineBreak_append, hasLineBreak_append, hn] at hclean
      simp at hclean
  · intro hr t
    have hclean : ∀ l ∈ (headerLines t r.headers).1, hasLineBreak l = false := fun l hl => by
      obtain ⟨h, hm, hv, hb⟩ := exists_of_mem_headerLines hl
      cases hn : hasLineBreak h.1 with
      | false => rw [hb, hn]
      | true =>
        rw [hr h hm hn] at hv
        simp at hv
    refine ⟨hclean, fun c hc => ?_⟩
    rw [count_joinLines hc hclean]
    exact headerLines_length r.headers t

/-- Setting a header changes the value of one of its name, or adds it. -/
theorem Header.mem_set {name value : String} {h : String × String} {hs : List (String × String)}
    (hm : h ∈ Header.set name value hs) :
    h ∈ hs ∨ Header.lower h.1 = Header.lower name ∧ h.2 = value := by
  induction hs with
  | nil =>
    rw [Header.set, List.mem_singleton] at hm
    exact .inr (hm ▸ ⟨rfl, rfl⟩)
  | cons g hs ih =>
    unfold Header.set at hm
    split at hm
    · rename_i hg
      rcases List.mem_cons.1 hm with rfl | hm
      · exact .inr ⟨beq_iff_eq.1 hg, rfl⟩
      · exact .inl (.tail _ hm)
    · rcases List.mem_cons.1 hm with rfl | hm
      · exact .inl (.head _)
      · exact (ih hm).imp_left (.tail _)

/-- What a sink sets on a response is sent as lines of one line each if that was so without it and
no name in the sink has a line break, unless its value has one. -/
theorem oneLineEach_applySink {r : Response} (hr : OneLineEach r.headers) {s : Sink}
    (hs : ∀ h ∈ s.headers, hasLineBreak h.1 = true → hasLineBreak h.2 = true) :
    OneLineEach (r.applySink s).headers := by
  have hset : ∀ (l : List (String × String)) (r : Response),
      (∀ h ∈ l, hasLineBreak h.1 = true → hasLineBreak h.2 = true) → OneLineEach r.headers →
      OneLineEach (l.foldl (fun r h => r.setHeader h.1 h.2) r).headers := by
    intro l
    induction l with
    | nil => intro r _ hr; exact hr
    | cons g l ih =>
      intro r hl hr
      refine ih _ (fun h hm => hl h (.tail _ hm)) ((oneLineEach_iff _).2 fun h hm hn => ?_)
      rcases Header.mem_set hm with hm | ⟨hname, hvalue⟩
      · exact (oneLineEach_iff r).1 hr h hm hn
      · -- the names are the same but for the case of their letters
        rw [hvalue]
        refine hl g (.head _) ?_
        rw [← hasLineBreak_lower, ← hname, hasLineBreak_lower, hn]
  exact hset s.headers { r with status := s.status.getD r.status } hs hr

/-- A header whose name has a line break in it is sent as two lines. -/
theorem headerLines_name_with_break :
    (headerLines {} [("X\r\nInjected", "1")]).1 = ["X\r\nInjected: 1"] ∧
      ¬ OneLineEach [("X\r\nInjected", "1")] := by
  refine ⟨by decide +kernel, fun h => ?_⟩
  have := (h {}).1 "X\r\nInjected: 1" (by decide +kernel)
  exact absurd this (by decide +kernel)

end RequestDispatch.Http

import Mathlib.Data.List.Forall2
import RequestDispatch.Http.Cookie
import RequestDispatch.Proofs.Dictionary
import RequestDispatch.Proofs.Http.Form
import RequestDispatch.Proofs.Text.Blank

/-!
# Cookies that are written and read back

* `pair?_cut`: a part of a header is cut at its first `=`, and what stands on either side is taken
  without the blanks around it.
* `pairs_append`: no part goes over a `;`, so the cookies of two headers that are joined by one are
  those of the first and then those of the second.
* `pairs_of_lists`: a header that spells cookies (`Lists`) has just these cookies in it.
* `parse_overrides_and_reads`: as maps, the second header is on top of the first, and of a name that
  is spelled more than once the last value stays.
-/

set_option autoImplicit false

namespace RequestDispatch.Http.Cookie

open Text (isBlank trimBy)

/-! ## One cookie -/

/-- The text neither begins nor ends with a blank. -/
def Unpadded (text : String) : Prop :=
  (∀ c ∈ text.toList.head?, isBlank c = false) ∧ ∀ c ∈ text.toList.getLast?, isBlank c = false

theorem unpadded_iff (text : String) : Unpadded text ↔
    text.toList.head?.all (!isBlank ·) = true ∧ text.toList.getLast?.all (!isBlank ·) = true := by
  simp only [Unpadded, Option.all_eq_true, Bool.not_eq_true', Option.mem_def]

instance (text : String) : Decidable (Unpadded text) :=
  decidable_of_iff _ (unpadded_iff text).symm

/-- A cookie that a header can spell: its name is not empty and has neither `;` nor `=` in it, its
value has no `;` in it, and neither begins or ends with a blank. -/
structure Writable (cookie : String × String) : Prop where
  name_ne : cookie.1 ≠ ""
  name_plain : ';' ∉ cookie.1.toList ∧ '=' ∉ cookie.1.toList
  name_unpadded : Unpadded cookie.1
  value_plain : ';' ∉ cookie.2.toList
  value_unpadded : Unpadded cookie.2

/-- The text is the name and the value with `=` between them, and with any blanks around both. -/
def Spells (part : List Char) (cookie : String × String) : Prop :=
  ∃ before after before' after',
    part = (before ++ cookie.1.toList ++ after) ++ '=' :: (before' ++ cookie.2.toList ++ after') ∧
      ∀ c ∈ before ++ after ++ before' ++ after', isBlank c = true

theorem pair?_cut {name : List Char} (h : '=' ∉ name) (hname : trimBy isBlank name ≠ [])
    (value : List Char) : pair? (name ++ '=' :: value) =
      some (String.ofList (trimBy isBlank name), String.ofList (trimBy isBlank value)) := by
  have hcut : '=' ∉ name.dropWhile isBlank := fun hmem =>
    h ((List.dropWhile_suffix isBlank).mem hmem)
  rw [pair?, Text.trimBy_append_cons (by decide), Form.cut_append hcut]
  simp only [Text.trimBy_dropWhile, Option.getD_some, Text.trimBy_dropWhileEnd]

theorem Spells.pair? {part : List Char} {cookie : String × String} (h : Spells part cookie)
    (hcookie : Writable cookie) : pair? part = some cookie := by
  obtain ⟨before, after, before', after', rfl, hblank⟩ := h
  simp only [List.mem_append, or_imp, forall_and] at hblank
  obtain ⟨⟨⟨hbefore, hafter⟩, hbefore'⟩, hafter'⟩ := hblank
  have heq : isBlank '=' ≠ true := by decide
  have hcut : '=' ∉ before ++ cookie.1.toList ++ after := by
    simp only [List.mem_append, not_or]
    exact ⟨⟨fun hc => heq (hbefore _ hc), hcookie.name_plain.2⟩, fun hc => heq (hafter _ hc)⟩
  have hname : trimBy isBlank (before ++ cookie.1.toList ++ after) = cookie.1.toList :=
    Text.trimBy_append hbefore hafter hcookie.name_unpadded.1 hcookie.name_unpadded.2
  have hvalue : trimBy isBlank (before' ++ cookie.2.toList ++ after') = cookie.2.toList :=
    Text.trimBy_append hbefore' hafter' hcookie.value_unpadded.1 hcookie.value_unpadded.2
  rw [pair?_cut hcut, hname, hvalue, String.ofList_toList, String.ofList_toList]
  rw [hname, ne_eq, String.toList_eq_nil_iff]
  exact hcookie.name_ne

theorem Spells.not_mem {part : List Char} {cookie : String × String} (h : Spells part cookie)
    (hcookie : Writable cookie) : ';' ∉ part := by
  obtain ⟨before, after, before', after', rfl, hblank⟩ := h
  have hout : ';' ∉ before ++ after ++ before' ++ after' := fun hc =>
    absurd (hblank _ hc) (by decide)
  have hname := hcookie.name_plain.1
  have hvalue := hcookie.value_plain
  simp only [List.mem_append, List.mem_cons] at hout ⊢
  grind

/-! ## All cookies of a header -/

/-- The header spells the cookies one after the other, with `;` between them. -/
def Lists (header : String) (cookies : List (String × String)) : Prop :=
  ∃ parts, header.toList = [';'].intercalate parts ∧ List.Forall₂ Spells parts cookies

theorem pairs_append (front back : List Char) :
    pairs (front ++ ';' :: back) = pairs front ++ pairs back := by
  rw [pairs, Form.splitOn_eq, List.splitOn_append_cons_self, List.filterMap_append,
    ← Form.splitOn_eq, ← Form.splitOn_eq]
  rfl

theorem filterMap_pair? {parts : List (List Char)} {cookies : List (String × String)}
    (h : List.Forall₂ Spells parts cookies) (hcookies : ∀ cookie ∈ cookies, Writable cookie) :
    parts.filterMap pair? = cookies := by
  induction h with
  | nil => rfl
  | cons hpart _ ih =>
    rw [List.filterMap_cons_some (hpart.pair? (hcookies _ (.head _))),
      ih fun cookie hmem => hcookies cookie (.tail _ hmem)]

theorem not_mem_parts {parts : List (List Char)} {cookies : List (String × String)}
    (h : List.Forall₂ Spells parts cookies) (hcookies : ∀ cookie ∈ cookies, Writable cookie) :
    ∀ part ∈ parts, ';' ∉ part := by
  induction h with
  | nil => exact List.forall_mem_nil _
  | cons hpart _ ih =>
    exact List.forall_mem_cons.2 ⟨hpart.not_mem (hcookies _ (.head _)),
      ih fun cookie hmem => hcookies cookie (.tail _ hmem)⟩

theorem pairs_of_lists {header : String} {cookies : List (String × String)}
    (h : Lists header cookies) (hcookies : ∀ cookie ∈ cookies, Writable cookie) :
    pairs header.toList = cookies := by
  obtain ⟨parts, hheader, hparts⟩ := h
  rw [pairs, Form.splitOn_eq, hheader]
  cases hparts with
  | nil => rfl
  | cons hpart hrest =>
    have hall := List.Forall₂.cons hpart hrest
    rw [List.splitOn_intercalate ';' (not_mem_parts hall hcookies) (List.cons_ne_nil _ _),
      filterMap_pair? hall hcookies]

/-! ## The map of a header -/

/-- Of two headers with `;` between them the second is on top of the first; and from a header that
spells cookies they are read back, each name with the last value that the cookies give it. -/
theorem parse_overrides_and_reads (front back header : String) (cookies : List (String × String)) :
    parse (some (front ++ ";" ++ back)) = (parse (some front)).override (parse (some back)) ∧
      (Lists header cookies → (∀ cookie ∈ cookies, Writable cookie) →
        parse (some header) = .ofPairs cookies ∧
        ∀ name, (parse (some header)).find? name = cookies.reverse.lookup name) := by
  constructor
  · have hjoin : (front ++ ";" ++ back).toList = front.toList ++ ';' :: back.toList := by simp
    rw [parse, parse, parse, hjoin, pairs_append, TextMap.ofPairs_append]
  · intro hlists hcookies
    have hparse : parse (some header) = .ofPairs cookies := by
      rw [parse, pairs_of_lists hlists hcookies]
    exact ⟨hparse, fun name => by rw [hparse, TextMap.find?_ofPairs]⟩

/-- A name that comes twice, a value with `=` in it, an empty one, and blanks on all sides. -/
theorem parse_overrides_and_reads_spaced :
    Lists " sid = a=b ;\ttheme=\u3000; sid=c" [("sid", "a=b"), ("theme", ""), ("sid", "c")] ∧
      parse (some " sid = a=b ;\ttheme=\u3000; sid=c") =
        .ofPairs [("sid", "a=b"), ("theme", ""), ("sid", "c")] ∧
      (parse (some " sid = a=b ;\ttheme=\u3000; sid=c")).find? "sid" = some "c" := by
  have hlists : Lists " sid = a=b ;\ttheme=\u3000; sid=c"
      [("sid", "a=b"), ("theme", ""), ("sid", "c")] := by
    refine ⟨[" sid = a=b ".toList, "\ttheme=\u3000".toList, " sid=c".toList], by decide +kernel,
      .cons ?_ (.cons ?_ (.cons ?_ .nil))⟩
    · exact ⟨[' '], [' '], [' '], [' '], by decide +kernel, List.all_eq_true.1 (by decide +kernel)⟩
    · exact ⟨['\t'], [], [], ['\u3000'], by decide +kernel, List.all_eq_true.1 (by decide +kernel)⟩
    · exact ⟨[' '], [], [], [], by decide +kernel, List.all_eq_true.1 (by decide +kernel)⟩
  have hcookies : ∀ cookie ∈ [("sid", "a=b"), ("theme", ""), ("sid", "c")], Writable cookie := by
    simp only [List.forall_mem_cons]
    refine ⟨?_, ?_, ?_, List.forall_mem_nil _⟩ <;>
      exact ⟨by decide +kernel, by decide +kernel, by decide +kernel, by decide +kernel,
        by decide +kernel⟩
  obtain ⟨hparse, hfind⟩ := (parse_overrides_and_reads "" "" _ _).2 hlists hcookies
  exact ⟨hlists, hparse, hfind "sid"⟩

end RequestDispatch.Http.Cookie

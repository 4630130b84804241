import Mathlib.Data.List.Nodup
import RequestDispatch.Proofs.Route.Limits

/-!
# What a template may be

`Spells text names`: the text consists of characters other than `{` and of placeholders with these
names. A brace that begins no placeholder is a fault, and the first one (`FirstFault`) decides what
is wrong with the text (`Faulty`).

* `brace_induction`: a text is taken apart at its first brace, and there at the next `}`.
* `spells_iff`, `faulty_iff`: `Piece.read` gives pieces exactly for what is spelled, and refuses
  exactly what is faulty, for its fault.
* `ofTemplate_decides`: within the limits of size, `Pattern.ofTemplate` accepts what is spelled with
  names of which none is repeated, and says of any other text what is wrong with it.
-/

set_option autoImplicit false

namespace RequestDispatch.Route

open Regex

/-! ## Names -/

/-- A letter or an underscore. -/
def NameStart (c : Char) : Prop := ('A' ≤ c ∧ c ≤ 'Z') ∨ ('a' ≤ c ∧ c ≤ 'z') ∨ c = '_'

/-- A letter, an underscore or a digit. -/
def NamePart (c : Char) : Prop := NameStart c ∨ ('0' ≤ c ∧ c ≤ '9')

/-- A text that can name a placeholder. -/
def IsName : List Char → Prop
  | [] => False
  | c :: rest => NameStart c ∧ ∀ d ∈ rest, NamePart d

theorem isAlpha_iff {c : Char} : c.isAlpha = true ↔ ('A' ≤ c ∧ c ≤ 'Z') ∨ ('a' ≤ c ∧ c ≤ 'z') := by
  have hupper : c.isUpper = true ↔ 'A' ≤ c ∧ c ≤ 'Z' := decide_eq_true_iff
  have hlower : c.isLower = true ↔ 'a' ≤ c ∧ c ≤ 'z' :=
    Bool.and_eq_true_iff.trans (and_congr decide_eq_true_iff decide_eq_true_iff)
  exact Bool.or_eq_true_iff.trans (or_congr hupper hlower)

theorem isDigit_iff {c : Char} : c.isDigit = true ↔ '0' ≤ c ∧ c ≤ '9' :=
  Bool.and_eq_true_iff.trans (and_congr decide_eq_true_iff decide_eq_true_iff)

theorem nameStart_iff {c : Char} : (c.isAlpha || c == '_') = true ↔ NameStart c := by
  rw [Bool.or_eq_true, isAlpha_iff, beq_iff_eq, or_assoc, NameStart]

theorem namePart_iff {c : Char} : (c.isAlphanum || c == '_') = true ↔ NamePart c := by
  rw [Char.isAlphanum, Bool.or_right_comm, Bool.or_eq_true, nameStart_iff, isDigit_iff, NamePart]

theorem isIdentifier_iff {name : List Char} : isIdentifier name = true ↔ IsName name := by
  cases name with
  | nil => simp [isIdentifier, IsName]
  | cons c rest => simp [isIdentifier, IsName, nameStart_iff, namePart_iff, -Bool.or_eq_true]

theorem not_namePart_open : ¬ NamePart '\x7b' := fun h => absurd (namePart_iff.2 h) (by decide)

theorem not_namePart_close : ¬ NamePart '\x7d' := fun h => absurd (namePart_iff.2 h) (by decide)

theorem IsName.namePart {name : List Char} (h : IsName name) : ∀ c ∈ name, NamePart c := by
  cases name with
  | nil => exact h.elim
  | cons c rest =>
    intro d hd
    rcases List.mem_cons.1 hd with rfl | hd
    · exact .inl h.1
    · exact h.2 d hd

theorem IsName.open_not_mem {name : List Char} (h : IsName name) : '\x7b' ∉ name := fun hmem =>
  not_namePart_open (h.namePart _ hmem)

theorem IsName.close_not_mem {name : List Char} (h : IsName name) : '\x7d' ∉ name := fun hmem =>
  not_namePart_close (h.namePart _ hmem)

/-! ## Texts and faults -/

namespace Piece

/-- The text is made of characters that open no placeholder and of placeholders with these names. -/
inductive Spells : List Char → List (List Char) → Prop where
  | nil : Spells [] []
  | literal {c : Char} {text : List Char} {names : List (List Char)} :
      c ≠ '\x7b' → Spells text names → Spells (c :: text) names
  | placeholder {name text : List Char} {names : List (List Char)} :
      IsName name → Spells text names →
        Spells ('\x7b' :: (name ++ '\x7d' :: text)) (name :: names)

/-- Behind a brace a text goes on as a placeholder does. -/
def Opens (text : List Char) : Prop := ∃ name rest, IsName name ∧ text = name ++ '\x7d' :: rest

/-- The brace between two parts of a text begins no placeholder, and each brace before it does. -/
structure FirstFault (text before after : List Char) : Prop where
  text_eq : text = before ++ '\x7b' :: after
  fault : ¬ Opens after
  earlier : ∀ u v, before = u ++ '\x7b' :: v → Opens (v ++ '\x7b' :: after)

/-- What is wrong behind the first brace that begins no placeholder: it is not closed, or the text
up to the next `}` is no name. -/
def Faulty (text : List Char) : TemplateFault → Prop
  | .unterminated => ∃ before after, FirstFault text before after ∧ '\x7d' ∉ after
  | .badName name => ∃ before rest, FirstFault text before (name ++ '\x7d' :: rest) ∧ '\x7d' ∉ name

/-- A text is empty, starts with a character other than a brace, with a brace that is not closed, or
with one that is closed behind a text without `}`. -/
theorem brace_induction {motive : List Char → Prop} (nil : motive [])
    (literal : ∀ c text, c ≠ '\x7b' → motive text → motive (c :: text))
    (unclosed : ∀ text, '\x7d' ∉ text → motive ('\x7b' :: text))
    (closed : ∀ name text, '\x7d' ∉ name → motive text →
      motive ('\x7b' :: (name ++ '\x7d' :: text)))
    (text : List Char) : motive text := by
  -- behind a closed brace the rest is shorter, but no tail of the text
  induction h : text.length using Nat.strongRecOn generalizing text with
  | ind n ih =>
    subst h
    cases text with
    | nil => exact nil
    | cons c text =>
      by_cases hc : c = '\x7b'
      · subst hc
        by_cases hclose : '\x7d' ∈ text
        · obtain ⟨name, rest, rfl, hname⟩ := List.eq_append_cons_of_mem hclose
          refine closed name rest hname (ih rest.length ?_ rest rfl)
          simp only [List.length_cons, List.length_append]
          omega
        · exact unclosed text hclose
      · exact literal c text hc (ih text.length (Nat.lt_succ_self _) text rfl)

/-! ## The first fault -/

theorem takeWhile_close {name rest : List Char} (h : '\x7d' ∉ name) :
    (name ++ '\x7d' :: rest).takeWhile (· != '\x7d') = name := by
  have hall : ∀ c ∈ name, (c != '\x7d') = true := fun c hc =>
    bne_iff_ne.2 (ne_of_mem_of_not_mem hc h)
  rw [List.takeWhile_append_of_pos hall, List.takeWhile_cons_of_neg (by simp), List.append_nil]

/-- A placeholder goes on if what comes before the first `}` is a name. -/
theorem opens_append_iff {name rest : List Char} (h : '\x7d' ∉ name) :
    Opens (name ++ '\x7d' :: rest) ↔ IsName name := by
  refine ⟨fun ⟨name', rest', hname', heq⟩ => ?_, fun hname => ⟨name, rest, hname, rfl⟩⟩
  have hcut := congrArg (List.takeWhile (· != '\x7d')) heq
  rw [takeWhile_close h, takeWhile_close hname'.close_not_mem] at hcut
  exact hcut ▸ hname'

theorem not_opens {text : List Char} (h : '\x7d' ∉ text) : ¬ Opens text := by
  rintro ⟨name, rest, -, rfl⟩
  exact h (by simp)

/-- There is no brace in a name, so the next one is behind the placeholder. -/
theorem brace_behind_name {name text u v : List Char} (hname : IsName name)
    (h : name ++ '\x7d' :: text = u ++ '\x7b' :: v) :
    ∃ w, u = name ++ '\x7d' :: w ∧ text = w ++ '\x7b' :: v := by
  rcases List.append_eq_append_iff.1 h with ⟨w, rfl, hw⟩ | ⟨w, rfl, hw⟩
  · cases w with
    | nil => simp at hw
    | cons c w =>
      obtain ⟨rfl, rfl⟩ := List.cons.inj hw
      exact ⟨w, rfl, rfl⟩
  · cases w with
    | nil => simp at hw
    | cons c w =>
      obtain ⟨rfl, -⟩ := List.cons.inj hw
      exact absurd (by simp) hname.open_not_mem

namespace FirstFault

variable {text before after before' after' : List Char}

theorem here (h : ¬ Opens after) : FirstFault ('\x7b' :: after) [] after :=
  ⟨rfl, h, fun u v hbefore => by simp at hbefore⟩

theorem cons {c : Char} (hc : c ≠ '\x7b') (h : FirstFault text before after) :
    FirstFault (c :: text) (c :: before) after := by
  refine ⟨by rw [h.text_eq]; rfl, h.fault, fun u v hbefore => ?_⟩
  cases u with
  | nil => exact absurd (List.cons.inj hbefore).1 hc
  | cons d u => exact h.earlier u v (List.cons.inj hbefore).2

theorem placeholder {name : List Char} (hname : IsName name) (h : FirstFault text before after) :
    FirstFault ('\x7b' :: (name ++ '\x7d' :: text)) ('\x7b' :: (name ++ '\x7d' :: before))
      after := by
  refine ⟨by rw [h.text_eq]; simp, h.fault, fun u v hbefore => ?_⟩
  cases u with
  | nil =>
    obtain ⟨-, rfl⟩ := List.cons.inj hbefore
    exact ⟨name, before ++ '\x7b' :: after, hname, by simp⟩
  | cons d u =>
    obtain ⟨w, -, hw⟩ := brace_behind_name hname (List.cons.inj hbefore).2
    exact h.earlier w v hw

/-- The first fault is where it is. -/
theorem unique (h : FirstFault text before after) (h' : FirstFault text before' after') :
    after = after' := by
  have htext := h.text_eq.symm.trans h'.text_eq
  -- if one of the two came before the other, it would be a brace that begins a placeholder
  rcases List.append_eq_append_iff.1 htext with ⟨w, hw, ha⟩ | ⟨w, hw, ha⟩
  · cases w with
    | nil => exact (List.cons.inj ha).2
    | cons c w =>
      obtain ⟨rfl, rfl⟩ := List.cons.inj ha
      exact absurd (h'.earlier before w hw) h.fault
  · cases w with
    | nil => exact (List.cons.inj ha).2.symm
    | cons c w =>
      obtain ⟨rfl, rfl⟩ := List.cons.inj ha
      exact absurd (h.earlier before' w hw) h'.fault

end FirstFault

theorem Faulty.cons {c : Char} {text : List Char} {e : TemplateFault} (hc : c ≠ '\x7b')
    (h : Faulty text e) : Faulty (c :: text) e := by
  cases e with
  | unterminated =>
    obtain ⟨before, after, hfault, hclose⟩ := h
    exact ⟨c :: before, after, hfault.cons hc, hclose⟩
  | badName name =>
    obtain ⟨before, rest, hfault, hclose⟩ := h
    exact ⟨c :: before, rest, hfault.cons hc, hclose⟩

theorem Faulty.placeholder {name text : List Char} {e : TemplateFault} (hname : IsName name)
    (h : Faulty text e) : Faulty ('\x7b' :: (name ++ '\x7d' :: text)) e := by
  cases e with
  | unterminated =>
    obtain ⟨before, after, hfault, hclose⟩ := h
    exact ⟨_, after, hfault.placeholder hname, hclose⟩
  | badName name' =>
    obtain ⟨before, rest, hfault, hclose⟩ := h
    exact ⟨_, rest, hfault.placeholder hname, hclose⟩

/-- A text has one fault at most. -/
theorem Faulty.unique {text : List Char} {e e' : TemplateFault} (h : Faulty text e)
    (h' : Faulty text e') : e = e' := by
  cases e with
  | unterminated =>
    obtain ⟨before, after, hfault, hclose⟩ := h
    cases e' with
    | unterminated => rfl
    | badName name =>
      obtain ⟨before', rest, hfault', -⟩ := h'
      exact absurd (hfault.unique hfault' ▸ by simp) hclose
  | badName name =>
    obtain ⟨before, rest, hfault, hclose⟩ := h
    cases e' with
    | unterminated =>
      obtain ⟨before', after, hfault', hclose'⟩ := h'
      exact absurd (hfault'.unique hfault ▸ by simp) hclose'
    | badName name' =>
      obtain ⟨before', rest', hfault', hclose'⟩ := h'
      have hcut := congrArg (List.takeWhile (· != '\x7d')) (hfault.unique hfault')
      rw [takeWhile_close hclose, takeWhile_close hclose'] at hcut
      rw [hcut]

/-! ## What is read -/

theorem readFrom_unclosed {text : List Char} (h : '\x7d' ∉ text) (held : List Char) :
    readFrom true held text = .error .unterminated := by
  induction text generalizing held with
  | nil => rfl
  | cons c text ih =>
    rw [List.mem_cons, not_or] at h
    rw [readFrom, if_neg (Ne.symm h.1), ih h.2]

/-- Up to the next `}` is the name. -/
theorem readFrom_closed {name : List Char} (h : '\x7d' ∉ name) (held rest : List Char) :
    readFrom true held (name ++ '\x7d' :: rest) =
      if isIdentifier (held.reverse ++ name) then
        (readFrom false [] rest).map (.placeholder (held.reverse ++ name) :: ·)
      else .error (.badName (held.reverse ++ name)) := by
  induction name generalizing held with
  | nil => rw [List.nil_append, List.append_nil, readFrom, if_pos rfl]
  | cons c name ih =>
    rw [List.mem_cons, not_or] at h
    rw [List.cons_append, readFrom, if_neg (Ne.symm h.1), ih h.2, List.reverse_cons,
      List.append_assoc, List.singleton_append]

/-- What is spelled is read, with its names. -/
theorem Spells.read_ok {text : List Char} {ns : List (List Char)} (h : Spells text ns) :
    ∀ held, ∃ pieces, readFrom false held text = .ok pieces ∧ names pieces = ns := by
  induction h with
  | nil => exact fun held => ⟨_, rfl, by rw [names_flush]; rfl⟩
  | literal hc _ ih =>
    intro held
    rw [readFrom, if_neg hc]
    exact ih _
  | placeholder hname _ ih =>
    intro held
    obtain ⟨pieces, hread, rfl⟩ := ih []
    rw [readFrom, if_pos rfl, readFrom_closed hname.close_not_mem, List.reverse_nil,
      List.nil_append, if_pos (isIdentifier_iff.2 hname), hread]
    exact ⟨_, rfl, names_flush _ _⟩

/-- What is read is spelled, and what is refused is faulty. -/
theorem readFrom_sound (text : List Char) : ∀ held,
    (∀ pieces, readFrom false held text = .ok pieces → Spells text (names pieces)) ∧
      ∀ e, readFrom false held text = .error e → Faulty text e := by
  induction text using brace_induction with
  | nil =>
    refine fun held => ⟨fun pieces h => ?_, fun e h => (by cases h)⟩
    obtain rfl := Except.ok.inj h
    rw [names_flush]
    exact .nil
  | literal c text hc ih =>
    intro held
    rw [readFrom, if_neg hc]
    exact ⟨fun pieces h => .literal hc ((ih _).1 pieces h), fun e h => ((ih _).2 e h).cons hc⟩
  | unclosed text hclose =>
    intro held
    rw [readFrom, if_pos rfl, readFrom_unclosed hclose]
    refine ⟨fun pieces h => (by cases h), fun e h => ?_⟩
    obtain rfl := Except.error.inj h
    exact ⟨[], text, .here (not_opens hclose), hclose⟩
  | closed name text hclose ih =>
    intro held
    rw [readFrom, if_pos rfl, readFrom_closed hclose, List.reverse_nil, List.nil_append]
    by_cases hname : IsName name
    · rw [if_pos (isIdentifier_iff.2 hname)]
      cases hread : readFrom false [] text with
      | error e =>
        refine ⟨fun pieces h => (by cases h), fun e' h => ?_⟩
        obtain rfl := Except.error.inj h
        exact ((ih []).2 e hread).placeholder hname
      | ok rest =>
        refine ⟨fun pieces h => ?_, fun e h => (by cases h)⟩
        obtain rfl := Except.ok.inj h
        rw [names_flush]
        exact .placeholder hname ((ih []).1 rest hread)
    · rw [if_neg (mt isIdentifier_iff.1 hname)]
      refine ⟨fun pieces h => (by cases h), fun e h => ?_⟩
      obtain rfl := Except.error.inj h
      exact ⟨[], text, .here (mt (opens_append_iff hclose).1 hname), hclose⟩

theorem spells_iff {text : List Char} {ns : List (List Char)} :
    Spells text ns ↔ ∃ pieces, read text = .ok pieces ∧ names pieces = ns :=
  ⟨fun h => h.read_ok [], fun ⟨pieces, hread, hnames⟩ =>
    hnames ▸ (readFrom_sound text []).1 pieces hread⟩

/-- Each brace of a text that is spelled begins a placeholder. -/
theorem Spells.opens {text : List Char} {ns : List (List Char)} (h : Spells text ns) :
    ∀ {before after : List Char}, text = before ++ '\x7b' :: after → Opens after := by
  induction h with
  | nil => exact fun h => by simp at h
  | literal hc _ ih =>
    intro before after h
    cases before with
    | nil => exact absurd (List.cons.inj h).1 hc
    | cons d before => exact ih (List.cons.inj h).2
  | placeholder hname _ ih =>
    intro before after h
    cases before with
    | nil => exact ⟨_, _, hname, (List.cons.inj h).2.symm⟩
    | cons d before =>
      obtain ⟨w, -, hw⟩ := brace_behind_name hname (List.cons.inj h).2
      exact ih hw

theorem Spells.not_faulty {text : List Char} {ns : List (List Char)} (h : Spells text ns)
    (e : TemplateFault) : ¬ Faulty text e := by
  cases e with
  | unterminated =>
    rintro ⟨before, after, hfault, -⟩
    exact hfault.fault (h.opens hfault.text_eq)
  | badName name =>
    rintro ⟨before, rest, hfault, -⟩
    exact hfault.fault (h.opens hfault.text_eq)

theorem faulty_iff {text : List Char} {e : TemplateFault} :
    Faulty text e ↔ read text = .error e := by
  refine ⟨fun h => ?_, (readFrom_sound text []).2 e⟩
  cases hread : read text with
  | ok pieces => exact absurd h (((readFrom_sound text []).1 pieces hread).not_faulty e)
  | error e' => rw [((readFrom_sound text []).2 e' hread).unique h]

end Piece

/-! ## What is accepted -/

open Piece

/-- The expression of a template, if it has one, is within the limits of height and memory. -/
def Fits (kind : PatternKind) (text : List Char) : Prop :=
  ∀ pieces part, read text = .ok pieces →
    readPattern (Pattern.templateExpression kind pieces) = .ok part →
      part.height ≤ maxHeight ∧ part.expr.memory ≤ memoryLimit

/-- What comes of a template with its slash, and what decides about it. -/
structure Decides (kind : PatternKind) (text : List Char)
    (result : Except RegistrationError Pattern) : Prop where
  accepted : (∃ p, result = .ok p) ↔
    ∃ names, Spells text names ∧ names.Nodup ∧ (kind = .catchAll → names ≠ [])
  pattern : ∀ p, result = .ok p → p.source = String.ofList text ∧ p.kind = kind ∧
    ∃ names, Spells text names ∧ p.paramNames = names.map String.ofList
  unterminated : result = .error (.unterminatedPlaceholder (String.ofList text)) ↔
    Faulty text .unterminated
  invalid : ∀ name,
    result = .error (.invalidPlaceholder (String.ofList text) (String.ofList name)) ↔
      Faulty text (.badName name)
  noPlaceholder : result = .error (.catchAllWithoutPlaceholder (String.ofList text)) ↔
    kind = .catchAll ∧ Spells text []
  repeated : result = .error (.expression (String.ofList text)) ↔
    ∃ names, Spells text names ∧ ¬ names.Nodup
  /-- What the expression is refused for is that a group has the name of another. -/
  duplicate : ∀ names, Spells text names → ¬ names.Nodup →
    ∃ pieces, read text = .ok pieces ∧
      compile (String.ofList (Pattern.templateExpression kind pieces)) = .error .duplicateName
  /-- There are no other errors. -/
  refused : ∀ e, result = .error e → e = .unterminatedPlaceholder (String.ofList text) ∨
    (∃ name, e = .invalidPlaceholder (String.ofList text) name) ∨
    e = .catchAllWithoutPlaceholder (String.ofList text) ∨ e = .expression (String.ofList text)

theorem fresh_nil_iff {ns : List (List Char)} : Fresh [] ns ↔ ns.Nodup := by
  rw [Fresh, and_iff_left fun n _ => List.not_mem_nil]
  exact List.nodup_map_iff fun _ _ => String.ofList_injective

/-- Within the limits, only a repeated name keeps the expression of a template from compiling. -/
theorem compile_templateExpression {kind : PatternKind} {text : List Char} {pieces : List Piece}
    (hfits : Fits kind text) (hread : read text = .ok pieces) :
    compile (String.ofList (Pattern.templateExpression kind pieces)) =
      if (names pieces).Nodup then
        .ok ⟨String.ofList (Pattern.templateExpression kind pieces),
          (whole (kind == .catchAll) pieces).expr⟩
      else .error .duplicateName := by
  have hpattern := readPattern_templateExpression kind (isIdentifier_of_read hread)
  rw [compile, String.toList_ofList, hpattern]
  by_cases hnodup : (names pieces).Nodup
  · rw [if_pos (fresh_nil_iff.2 hnodup)] at hpattern ⊢
    obtain ⟨hheight, hmemory⟩ := hfits pieces _ hread hpattern
    simp only [if_neg (Nat.not_lt.2 hheight), if_neg (Nat.not_lt.2 hmemory), if_pos hnodup, whole]
  · rw [if_neg (mt fresh_nil_iff.1 hnodup), if_neg hnodup]

/-- Within the limits of size: a template is accepted exactly if it is made of characters that open
no placeholder and of placeholders with different names, for a catch-all of one at least. Its
pattern has the template with its slash and the names in their order. What is wrong with any other
text is decided by its first brace that begins no placeholder, and only where there is none by what
names there are. -/
theorem ofTemplate_decides {kind : PatternKind} {t : String}
    (hfits : Fits kind (withSlash t.toList)) :
    Decides kind (withSlash t.toList) (Pattern.ofTemplate kind t) := by
  cases hread : read (withSlash t.toList) with
  | error e =>
    cases e with
    | unterminated =>
      have hresult : Pattern.ofTemplate kind t =
          .error (.unterminatedPlaceholder (String.ofList (withSlash t.toList))) := by
        simp only [Pattern.ofTemplate, hread]
      rw [hresult]
      constructor <;> simp [spells_iff, faulty_iff, hread]
    | badName name =>
      have hresult : Pattern.ofTemplate kind t = .error (.invalidPlaceholder
          (String.ofList (withSlash t.toList)) (String.ofList name)) := by
        simp only [Pattern.ofTemplate, hread]
      rw [hresult]
      constructor <;> simp [spells_iff, faulty_iff, hread, String.ofList_inj]
  | ok pieces =>
    have hcompile := compile_templateExpression hfits hread
    by_cases hnone : kind = .catchAll ∧ names pieces = []
    · have hresult : Pattern.ofTemplate kind t =
          .error (.catchAllWithoutPlaceholder (String.ofList (withSlash t.toList))) := by
        simp only [Pattern.ofTemplate, hread, if_pos hnone]
      rw [hresult]
      constructor <;> simp [spells_iff, faulty_iff, hread, hnone]
    · by_cases hnodup : (names pieces).Nodup
      · rw [if_pos hnodup] at hcompile
        have hresult : Pattern.ofTemplate kind t = .ok ⟨String.ofList (withSlash t.toList), kind,
            ⟨String.ofList (Pattern.templateExpression kind pieces),
              (whole (kind == .catchAll) pieces).expr⟩, (names pieces).map String.ofList⟩ := by
          simp only [Pattern.ofTemplate, hread, if_neg hnone, hcompile]
        rw [hresult]
        have hsome : kind = .catchAll → names pieces ≠ [] := not_and.1 hnone
        constructor
        case accepted => simpa [spells_iff, hread, hnodup] using hsome
        all_goals simp [spells_iff, faulty_iff, hread, hnodup, hnone]
      · rw [if_neg hnodup] at hcompile
        have hresult : Pattern.ofTemplate kind t =
            .error (.expression (String.ofList (withSlash t.toList))) := by
          simp only [Pattern.ofTemplate, hread, if_neg hnone, hcompile]
        rw [hresult]
        constructor <;> simp [spells_iff, faulty_iff, hread, hnodup, hnone, hcompile]

/-- A `}` that closes nothing is a character like any other; a brace in a placeholder belongs to
its name. -/
theorem ofTemplate_decides_stray :
    Fits .catchAll (withSlash "\x7dé\x7ba\x7d\x7b_2\x7d".toList) ∧
    (∃ p, Pattern.ofTemplate .catchAll "\x7dé\x7ba\x7d\x7b_2\x7d" = .ok p ∧
      p.source = "/\x7dé\x7ba\x7d\x7b_2\x7d" ∧ p.paramNames = ["a", "_2"]) ∧
    Fits .template (withSlash "/\x7ba\x7d\x7bb\x7bc\x7d\x7b".toList) ∧
    Pattern.ofTemplate .template "/\x7ba\x7d\x7bb\x7bc\x7d\x7b" =
      .error (.invalidPlaceholder "/\x7ba\x7d\x7bb\x7bc\x7d\x7b" "b\x7bc") := by
  have hfits : Fits .catchAll (withSlash "\x7dé\x7ba\x7d\x7b_2\x7d".toList) := by
    intro pieces part hread hpart
    obtain rfl : [.literal "/\x7dé".toList, .placeholder ['a'], .placeholder ['_', '2']] = pieces :=
      Except.ok.inj hread
    have hlimits : ((readPattern (Pattern.templateExpression .catchAll
        [.literal "/\x7dé".toList, .placeholder ['a'], .placeholder ['_', '2']])).toOption.map
          fun part => decide (part.height ≤ maxHeight ∧ part.expr.memory ≤ memoryLimit)) =
        some true := by decide +kernel
    rw [hpart] at hlimits
    exact of_decide_eq_true (Option.some.inj hlimits)
  have hrefused : Fits .template (withSlash "/\x7ba\x7d\x7bb\x7bc\x7d\x7b".toList) :=
    fun pieces part hread => by cases hread
  refine ⟨hfits, ?_, hrefused, ?_⟩
  · have hdecides := ofTemplate_decides hfits
    obtain ⟨p, hp⟩ := hdecides.accepted.2
      ⟨[['a'], ['_', '2']], spells_iff.2 ⟨_, rfl, rfl⟩, by decide, by simp⟩
    obtain ⟨hsource, -, ns, hns, hnames⟩ := hdecides.pattern p hp
    obtain ⟨pieces, hread, rfl⟩ := spells_iff.1 hns
    obtain rfl := Except.ok.inj hread
    exact ⟨p, hp, hsource, hnames⟩
  · exact ((ofTemplate_decides hrefused).invalid ['b', '\x7b', 'c']).2 (faulty_iff.2 rfl)

end RequestDispatch.Route

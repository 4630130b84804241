import Mathlib.Data.List.Basic
import RequestDispatch.Proofs.Dictionary
import RequestDispatch.Proofs.Text.Case
import RequestDispatch.Request

/-!
# Two views of the headers of a request

A header can be looked up by its name, where the case of letters does not count, and its value is an
entry of the request's metadata under a name made from its own.

* `Request.header?_eq`: a look-up finds the first of all headers of the name.
* `Request.find?_serverVars`: the metadata keep the last of all headers with the metadata name.
* `Request.views_agree_iff`: so the two agree where these are headers with the same value, as they
  are if no other header has the metadata name.
* `Request.views_disagree`: a header that comes twice has a value in each view.
-/

set_option autoImplicit false

namespace RequestDispatch.Request

open Http.Header (lower sameName)

/-- The values of the headers of a name, in order. -/
def named (r : Request) (name : String) : List String :=
  (r.headers.filter fun h => sameName h.1 name).map Prod.snd

/-- The values of the headers that have their metadata name in common with a name, in order. -/
def listed (r : Request) (name : String) : List String :=
  (r.headers.filter fun h => serverName h.1 == serverName name).map Prod.snd

theorem header?_eq (r : Request) (name : String) : r.header? name = (r.named name).head? := by
  rw [header?, Http.Header.find?, named, List.head?_map, List.head?_filter]

/-! ## Metadata names -/

theorem serverName_of_sameName {a b : String} (h : sameName a b = true) :
    serverName a = serverName b := by
  have hlower : a.toList.map Char.toLower = b.toList.map Char.toLower :=
    String.ofList_inj.1 (eq_of_beq h)
  have hupper : ∀ s : String, s.toList.map Char.toUpper =
      (s.toList.map Char.toLower).map Char.toUpper := by
    intro s
    rw [List.map_map]
    exact List.map_congr_left fun c _ => (Text.toUpper_toLower c).symm
  rw [serverName, serverName, hupper a, hlower, ← hupper b]

/-- The metadata that are not headers have names of their own. -/
theorem ne_serverName {key : String} (h : key ∈ ["REQUEST_METHOD", "REQUEST_URI", "PATH_INFO",
    "QUERY_STRING", "SERVER_PROTOCOL", "REMOTE_ADDR"]) (name : String) : key ≠ serverName name := by
  have hstart : ∀ key ∈ ["REQUEST_METHOD", "REQUEST_URI", "PATH_INFO", "QUERY_STRING",
      "SERVER_PROTOCOL", "REMOTE_ADDR"], key.toList.take 5 ≠ "HTTP_".toList := by decide +kernel
  rintro rfl
  refine hstart _ h ?_
  rw [serverName, String.toList_append]
  rfl

theorem find?_serverVars (r : Request) (name : String) :
    Dictionary.find? (serverName name) r.serverVars = (r.listed name).getLast?.map Json.text := by
  have hlast : (r.headers.map fun h => (serverName h.1, h.2)).reverse.lookup (serverName name) =
      (r.listed name).getLast? := by
    rw [lookup_eq_head?, List.filter_reverse, List.map_reverse, List.head?_reverse, List.filter_map,
      List.map_map]
    rfl
  rw [serverVars, Dictionary.find?_ofPairs, ← List.map_reverse,
    lookup_map_snd fun _ value => Json.text value, List.reverse_append, List.lookup_append, hlast,
    lookup_eq_none_of_not_mem, Option.or_none]
  intro hkey
  obtain ⟨p, hp, hname⟩ := List.mem_map.1 hkey
  refine ne_serverName ?_ name hname
  rcases List.mem_append.1 (List.mem_reverse.1 hp) with hp | hp
  · simp only [List.mem_cons, List.not_mem_nil, or_false] at hp
    rcases hp with rfl | rfl | rfl | rfl | rfl <;> simp
  · obtain ⟨address, -, rfl⟩ := Option.map_eq_some_iff.1 (Option.mem_toList.1 hp)
    simp

/-! ## The views side by side -/

theorem named_sublist_listed (r : Request) (name : String) :
    (r.named name).Sublist (r.listed name) := by
  refine (List.monotone_filter_right r.headers fun h hsame => ?_).map Prod.snd
  rw [serverName_of_sameName hsame]
  exact beq_self_eq_true _

/-- Under a name that is among the headers both views have a value. They agree exactly where the
first header of the name and the last header with its metadata name have the same value, as they do
if the request has no other header with that metadata name. -/
theorem views_agree_iff (r : Request) {name : String} (h : name ∈ r.headers.map Prod.fst) :
    (∃ first last, (r.named name).head? = some first ∧ (r.listed name).getLast? = some last ∧
      r.header? name = some first ∧
      Dictionary.find? (serverName name) r.serverVars = some (.text last)) ∧
    (Dictionary.find? (serverName name) r.serverVars = (r.header? name).map Json.text ↔
      (r.named name).head? = (r.listed name).getLast?) ∧
    ((r.listed name).length = 1 →
      Dictionary.find? (serverName name) r.serverVars = (r.header? name).map Json.text) := by
  obtain ⟨g, hg, rfl⟩ := List.mem_map.1 h
  have hnamed : r.named g.1 ≠ [] := List.ne_nil_of_mem
    (List.mem_map_of_mem (List.mem_filter.2 ⟨hg, beq_self_eq_true _⟩))
  have hsub := r.named_sublist_listed g.1
  have hlisted : r.listed g.1 ≠ [] := fun hnil => hnamed (List.sublist_nil.1 (hnil ▸ hsub))
  obtain ⟨first, hfirst⟩ := Option.isSome_iff_exists.1 (List.isSome_head?.2 hnamed)
  obtain ⟨last, hlast⟩ := Option.isSome_iff_exists.1 (List.getLast?_isSome.2 hlisted)
  have hiff : some (Json.text last) = (some first).map Json.text ↔ some first = some last := by
    simp [eq_comm]
  rw [header?_eq, find?_serverVars, hfirst, hlast]
  refine ⟨⟨first, last, rfl, rfl, rfl, rfl⟩, hiff, fun hone => hiff.2 ?_⟩
  -- a header of the name is the only one with its metadata name
  have heq : r.named g.1 = r.listed g.1 :=
    hsub.eq_of_length_le (hone ▸ List.length_pos_iff.2 hnamed)
  obtain ⟨value, hvalue⟩ := List.length_eq_one_iff.1 hone
  rw [← hfirst, ← hlast, heq, hvalue]
  rfl

/-- A request with one header that comes once and one that comes twice. -/
def tagged : Request :=
  (((make ⟨0⟩ "GET" "/").withHeader "Host" "localhost").withHeader "X-Tag" "1").withHeader "X-Tag" "2"

/-- The header that comes once is in both views. -/
theorem views_agree_iff_host : "host" ∈ tagged.headers.map Prod.fst ∧
    tagged.header? "host" = some "localhost" ∧
    Dictionary.find? (serverName "host") tagged.serverVars =
      (tagged.header? "host").map Json.text := by
  have hmem : "host" ∈ tagged.headers.map Prod.fst := by decide +kernel
  exact ⟨hmem, by decide +kernel, (tagged.views_agree_iff hmem).2.2 (by decide +kernel)⟩

/-- Of the header that comes twice a look-up finds the first value, and the metadata have the
last. -/
theorem views_disagree : "x-tag" ∈ tagged.headers.map Prod.fst ∧
    tagged.header? "x-tag" = some "1" ∧
    Dictionary.find? (serverName "x-tag") tagged.serverVars = some (.text "2") ∧
    Dictionary.find? (serverName "x-tag") tagged.serverVars ≠
      (tagged.header? "x-tag").map Json.text := by
  have hfirst : tagged.header? "x-tag" = some "1" := by decide +kernel
  have hlisted : tagged.listed "x-tag" = ["1", "2"] := by decide +kernel
  have hlast : Dictionary.find? (serverName "x-tag") tagged.serverVars = some (.text "2") := by
    rw [find?_serverVars, hlisted]
    rfl
  refine ⟨by decide +kernel, hfirst, hlast, ?_⟩
  rw [hfirst, hlast]
  simp

end RequestDispatch.Request

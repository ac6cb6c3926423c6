import DesignToCode.Image.Source
import DesignToCode.Proofs.Except
import Mathlib.Data.List.TakeDrop
import Mathlib.Data.List.TakeWhile

set_option autoImplicit false

namespace DesignToCode

open DesignToCode.Text

theorem Text.cut_append {mark : Char} {front : List Char} (clean : mark ∉ front)
    (rest : List Char) : cut mark (front ++ mark :: rest) = (front, some rest) := by
  have differs : ∀ c ∈ front, (c != mark) = true := by
    intro c member
    have : c ≠ mark := fun equal => clean (equal ▸ member)
    simpa using this
  simp [cut, List.takeWhile_append_of_pos differs, List.dropWhile_append_of_pos differs]

namespace Web

/-- The schemes of addresses that are loaded. -/
def webSchemes : List (List Char) := ["http".toList, "https".toList]

theorem takeScheme_of_isWebUrl {cs : List Char} (h : isWebUrl cs = true) :
    (Written.takeScheme cs).1 ∈ webSchemes := by
  have named (scheme : List Char) (clean : ':' ∉ scheme) (valid : Written.isScheme scheme = true)
      (rest : List Char) : (Written.takeScheme (scheme ++ ':' :: rest)).1 = scheme := by
    rw [Written.takeScheme, cut_append clean]
    simp [valid]
  simp only [isWebUrl, Bool.or_eq_true, List.isPrefixOf_iff_prefix] at h
  rcases h with ⟨rest, rfl⟩ | ⟨rest, rfl⟩
  · have http := named "http".toList (by decide) (by decide) ('/' :: '/' :: rest)
    exact http ▸ List.mem_cons_self
  · have https := named "https".toList (by decide) (by decide) ('/' :: '/' :: rest)
    exact https ▸ List.mem_cons_of_mem _ List.mem_cons_self

namespace Address

theorem ofWritten_of_parse {text : String} {a : Address} (h : parse text = .ok a) :
    ofWritten (.ofText text.toList) = .ok a := by
  unfold parse at h
  dsimp only at h
  split at h
  · cases h
  · split at h
    · cases h
    · exact h

theorem scheme_of_ofWritten {w : Written} {a : Address} (h : ofWritten w = .ok a) :
    a.scheme = String.ofList (w.scheme.map Char.toLower) := by
  simp only [ofWritten, Except.bind_eq_ok_iff, pure, Except.pure, Except.ok.injEq] at h
  obtain ⟨host, -, channel, -, -, -, rfl⟩ := h
  rfl

theorem scheme_of_isWebUrl {cs : List Char} (web : isWebUrl cs = true) {a : Address}
    (h : parse (String.ofList cs) = .ok a) : a.scheme.toList ∈ webSchemes := by
  have written := ofWritten_of_parse h
  rw [String.toList_ofList] at written
  have taken : (Written.ofText cs).scheme = (Written.takeScheme cs).1 := rfl
  have small : ∀ scheme ∈ webSchemes, scheme.map Char.toLower = scheme := by decide
  have known := takeScheme_of_isWebUrl web
  rw [scheme_of_ofWritten written, taken, String.toList_ofList, small _ known]
  exact known

theorem isEmpty_of_scheme {a : Address} (h : a.scheme.toList ∈ webSchemes) :
    a.scheme.isEmpty = false := by
  have long : ∀ scheme ∈ webSchemes, scheme ≠ [] := by decide
  have present := long _ h
  simpa using present

/-- An address with a scheme starts with the name of the scheme. -/
theorem isNamed_of_scheme {a : Address} (h : a.scheme.toList ∈ webSchemes) : a.isNamed = true := by
  have clean : ∀ scheme ∈ webSchemes, scheme.all (fun c => c != ':' && c != '/') = true := by
    decide
  have plain := List.all_eq_true.mp (clean _ h)
  obtain ⟨rest, whole⟩ : ∃ rest, a.text.toList = a.scheme.toList ++ ':' :: rest := by
    simp [text, isEmpty_of_scheme h]
  unfold isNamed
  rw [List.span_eq_takeWhile_dropWhile, whole, List.takeWhile_append_of_pos plain,
    List.dropWhile_append_of_pos plain]
  simp only [webSchemes, List.mem_cons, List.not_mem_nil, or_false] at h
  rcases h with http | https
  · rw [http]
    rfl
  · rw [https]
    rfl

/-- A path alone starts with no name. -/
theorem isNamed_of_path (path : String) (query : Option String) :
    ({ path := "/" ++ path, query := query } : Address).isNamed = false := by
  obtain ⟨rest, whole⟩ :
      ∃ rest, ({ path := "/" ++ path, query := query } : Address).text.toList = '/' :: rest := by
    simp [text, authority]
  unfold isNamed
  rw [List.span_eq_takeWhile_dropWhile, whole]
  rfl

/-- An address of the web is asked for by a name exactly when it has a host. -/
theorem isNamed_requested_iff {cs : List Char} (web : isWebUrl cs = true) {a : Address}
    (h : parse (String.ofList cs) = .ok a) : a.requested.isNamed = true ↔ a.host ≠ "" := by
  have scheme := scheme_of_isWebUrl web h
  unfold requested
  by_cases hosted : a.host = ""
  · have relative : a.isAbsolute = false := by simp [isAbsolute, hosted]
    simp [relative, hosted, isNamed_of_path]
  · have absolute : a.isAbsolute = true := by
      simp [isAbsolute, hosted, isEmpty_of_scheme scheme]
    simp [absolute, hosted, isNamed_of_scheme scheme]

end Address

end Web

end DesignToCode

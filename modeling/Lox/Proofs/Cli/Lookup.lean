import Lox.Cli.Files

set_option autoImplicit false

namespace Lox.Cli

theorem Entry.ofBytes_ne_refused (bytes : ByteArray) : Entry.ofBytes bytes ≠ .refused := by
  unfold Entry.ofBytes
  split <;> nofun

theorem Entry.ofBytes_toUTF8 (content : String) :
    Entry.ofBytes content.toUTF8 = .text (unified content) := by
  have valid : content.toUTF8.IsValidUTF8 := content.isValidUTF8
  have readable : String.fromUTF8? content.toUTF8 = some content := by
    rw [String.fromUTF8?, dif_pos (by simpa using valid)]
    rfl
  rw [Entry.ofBytes, readable]

namespace WrittenPath

theorem ofText_of_single {name : String} (single : '/' ∉ name.toList) :
    ofText name = ⟨"", [name].filter fun name => name ≠ "" && name ≠ "."⟩ := by
  have root : rootOf name.toList = "" := by
    cases letters : name.toList with
    | nil => rfl
    | cons c rest =>
      unfold rootOf
      split <;> simp_all
  have whole : name.toList.splitOn '/' = [name.toList] := List.splitOn_eq_singleton single
  rw [ofText, root, whole, List.map_singleton, String.ofList_toList]

theorem text_singleton (name : String) : text ⟨"", [name]⟩ = name := by
  simp [text]

end WrittenPath

namespace Files

theorem follow_ne_refused (f : Files) {names : Path}
    (short : ∀ name ∈ names, name.utf8ByteSize ≤ WrittenPath.nameLimit) (place : Place) :
    f.follow place names ≠ .refused := by
  induction names generalizing place with
  | nil => cases place <;> nofun
  | cons name rest ih =>
    have later := ih fun name mem => short name (List.mem_cons_of_mem _ mem)
    have fits : ¬ WrittenPath.nameLimit < name.utf8ByteSize :=
      Nat.not_lt.2 (short name List.mem_cons_self)
    cases place with
    | above =>
      rw [follow, if_neg fits]
      split
      · exact later .above
      · nofun
    | inside names =>
      simp only [follow, if_neg fits]
      split
      · split
        · exact later _
        · exact later _
      · split
        · exact later _
        · split
          · exact Entry.ofBytes_ne_refused _
          · nofun

theorem find_ne_refused (f : Files) {written : String}
    (short : ∀ name ∈ (WrittenPath.ofText written).names,
      name.utf8ByteSize ≤ WrittenPath.nameLimit)
    (whole : (WrittenPath.ofText written).text.utf8ByteSize ≤ WrittenPath.textLimit) :
    f.find written ≠ .refused := by
  simp only [find, if_neg (Nat.not_lt.2 whole)]
  split
  · nofun
  · split
    · exact f.follow_ne_refused short _
    · exact f.follow_ne_refused short _

theorem find_eq_refused_iff (f : Files) {name : String} (single : '/' ∉ name.toList) :
    f.find name = .refused ↔
      '\x00' ∉ name.toList ∧ WrittenPath.nameLimit < name.utf8ByteSize := by
  have path := WrittenPath.ofText_of_single single
  by_cases long : WrittenPath.nameLimit < name.utf8ByteSize
  · have other {word : String} (small : word.utf8ByteSize ≤ WrittenPath.nameLimit) :
        name ≠ word := by
      rintro rfl
      exact Nat.not_lt.2 small long
    have empty : name ≠ "" := other (by decide)
    have dot : name ≠ "." := other (by decide)
    have dots : name ≠ ".." := other (by decide)
    have path : WrittenPath.ofText name = ⟨"", [name]⟩ := by simp [path, empty, dot]
    by_cases nul : '\x00' ∈ name.toList
    · simp [find, nul]
    · simp [find, nul, path, WrittenPath.text_singleton, follow, dots, long]
  · have kept : ∀ word ∈ (WrittenPath.ofText name).names, word = name := by
      rw [path]
      simp +contextual
    have short : ∀ word ∈ (WrittenPath.ofText name).names,
        word.utf8ByteSize ≤ WrittenPath.nameLimit := by
      intro word mem
      rw [kept word mem]
      exact Nat.not_lt.1 long
    have whole : (WrittenPath.ofText name).text.utf8ByteSize ≤ WrittenPath.textLimit := by
      rw [path, List.filter_cons, List.filter_nil]
      split
      · rw [WrittenPath.text_singleton]
        exact Nat.le_trans (Nat.not_lt.1 long) (by decide)
      · decide
    simp [f.find_ne_refused short whole, long]

end Files

end Lox.Cli

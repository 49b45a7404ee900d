import Scaffold.Proofs.Name.Capitalised
import Scaffold.Proofs.Template.Identifiers

/-! # The class of a row

The object that reads and writes a table calls the class of its rows by the singular of the class of
the table. Singular and plural keep an identifier one, and commute with its capital.
-/

namespace Scaffold.Drift

open Name Template

variable {name : String} {xs : List (Symbol Mark)}

/-- What stands for the class of a row in the text for a table is the singular of its class. -/
theorem rowClass_mem_names {key : String} (m : String)
    (hx : accessor.body.marked key [("name", .text name), ("table_name", .text name)] = .ok xs) :
    [.value (.var "row_class", m)] ∈ names xs ↔ m = singularize (pascal name) := by
  let scope : Scope := [("row_class", .text (singularize (pascal name))),
    ("table_getter", .text (camel name)), ("table_class", .text (pascal name)),
    ("class_name", .text (pascal name)), ("name", .text name), ("table_name", .text name)]
  have hs : reached key accessorGuards [("name", .text name), ("table_name", .text name)] =
      [scope] := rfl
  have hrow : (Expr.var "row_class").eval key scope = .ok (.text (singularize (pascal name))) :=
    rfl
  rw [mem_names_marked names?_accessor hx, eq_comm (a := m)]
  -- the other names of the template are other expressions
  simp [accessorNames, Line.filled, hs, fill, Symbol.map, Expr.mark, Symbol.ofText, hrow,
    Value.display]

/-- The singular and the plural of an identifier are identifiers that start with the same character.
Those of a capitalised word are those of the word in small letters, capitalised, if it has at least
three characters; so the class of a row is the singular of the table, capitalised like its class. -/
theorem inflected_names :
    (∀ n role : String, checkIdentifier n role = .ok () →
      checkIdentifier (singularize n) role = .ok () ∧
      (singularize n).toList.head? = n.toList.head? ∧
      checkIdentifier (pluralize n) role = .ok () ∧
      (pluralize n).toList.head? = n.toList.head?) ∧
    ∀ w : String, 3 ≤ w.length → (∀ c ∈ w.toList, isSmallWordChar c = true) →
      w.toList.head?.any isLetter = true →
      singularize (capital w) = capital (singularize w) ∧
      pluralize (capital w) = capital (pluralize w) ∧
      ('_' ∉ w.toList → pascal w = capital w) ∧
      ∀ (today : Date) (table : String) (columns : Option String),
        isIdentifier table.toList = true → pascal table = capital w →
        ∃ s xs, generate today Kind.accessor.word table columns = .ok s ∧
          accessor.body.marked accessor.key [("name", .text table), ("table_name", .text table)] =
            .ok xs ∧ plain xs = s ∧
          ∀ m, [.value (.var "row_class", m)] ∈ names xs ↔ m = capital (singularize w) := by
  constructor
  · intro n role hn
    have hi := checkIdentifier_eq_ok.mp hn
    have hword : ∀ c ∈ n.toList, isWordChar c = true := fun _ => isWordChar_of_mem hi
    simp only [checkIdentifier_eq_ok, singularize, pluralize, String.toList_ofList]
    exact ⟨isIdentifier_singularChars hi, head?_singularChars hword, isIdentifier_pluralChars hi,
      head?_pluralChars hword (ne_nil_of_isIdentifier hi)⟩
  · intro w hl h hc
    refine ⟨singularize_capital h hl hc, pluralize_capital h hl hc, pascal_eq_capital h, ?_⟩
    intro today table columns ht hp
    obtain ⟨xs, hx⟩ : ∃ xs, accessor.body.marked accessor.key
        [("name", .text table), ("table_name", .text table)] = .ok xs := ⟨_, rfl⟩
    refine ⟨plain xs, xs, ?_, hx, rfl, fun m => ?_⟩
    · refine check_bind_eq_ok.mpr ⟨checkIdentifier_eq_ok.mpr ht, ?_⟩
      rw [Packaged.render, render_eq_plain, hx]
      rfl
    · rw [rowClass_mem_names m hx, hp, singularize_capital h hl hc]

theorem inflected_names_people :
    checkIdentifier "_people" "name" = .ok () ∧
    checkIdentifier (singularize "_people") "name" = .ok () ∧
    (singularize "_people").toList.head? = "_people".toList.head? ∧
    checkIdentifier (pluralize "_people") "name" = .ok () ∧
    3 ≤ "people".length ∧ (∀ c ∈ "people".toList, isSmallWordChar c = true) ∧
    "people".toList.head?.any isLetter = true ∧ capital "people" = "People" ∧
    singularize "People" = "Person" ∧ pascal "people" = "People" ∧
    ∃ s xs, generate ⟨2024, 2, 29⟩ "dao" "people" none = .ok s ∧ plain xs = s ∧
      [.value (.var "row_class", "Person")] ∈ names xs := by
  have hsmall : ∀ c ∈ "people".toList, isSmallWordChar c = true := List.all_eq_true.mp (by decide)
  have hname : checkIdentifier "_people" "name" = .ok () := by decide
  have hcapital : capital "people" = "People" := by decide +kernel
  have hperson : capital (singularize "people") = "Person" := by decide +kernel
  obtain ⟨hn, hw⟩ := inflected_names
  obtain ⟨hs, hhead, hp, -⟩ := hn "_people" "name" hname
  obtain ⟨hsingular, -, hpascal, hrow⟩ := hw "people" (by decide) hsmall (by decide)
  have hpascal := hpascal (by decide)
  obtain ⟨s, xs, htext, -, hplain, hmem⟩ := hrow ⟨2024, 2, 29⟩ "people" none (by decide) hpascal
  rw [hcapital, hperson] at hsingular
  exact ⟨hname, hs, hhead, hp, by decide, hsmall, by decide, hcapital, hsingular,
    hpascal.trans hcapital, s, xs, htext, hplain, (hmem _).mpr hperson.symm⟩

end Scaffold.Drift

import VoiceAssistants.Python.JsonRoundTrip

/-!
# Sorting and joining texts

`texts.sort()` compares UTF-16 code units.  That is a total order on texts, so that the sorted list depends on how often
each text occurs and on nothing else (`jsSort_eq_iff`).  Texts that are joined with a separator are found again in the
result as far as they do not hold the separator themselves (`join_eq_iff`).
-/

namespace VoiceAssistants

/-! ## The order of texts -/

theorem lexLe_total (a b : List Nat) : lexLe a b = true ∨ lexLe b a = true := by
  induction a generalizing b with
  | nil => exact .inl rfl
  | cons x a ih =>
      cases b with
      | nil => exact .inr rfl
      | cons y b =>
          by_cases heq : x = y
          · simpa [lexLe, heq] using ih b
          · have hne : ¬ y = x := fun h => heq h.symm
            simp only [lexLe, if_neg heq, if_neg hne, decide_eq_true_eq]
            omega

theorem lexLe_antisymm {a b : List Nat} (hab : lexLe a b = true) (hba : lexLe b a = true) : a = b := by
  induction a generalizing b with
  | nil =>
      cases b with
      | nil => rfl
      | cons y b => cases hba
  | cons x a ih =>
      cases b with
      | nil => cases hab
      | cons y b =>
          by_cases heq : x = y
          · subst heq
            simp only [lexLe, if_pos] at hab hba
            rw [ih hab hba]
          · have hne : ¬ y = x := fun h => heq h.symm
            simp only [lexLe, if_neg heq, if_neg hne, decide_eq_true_eq] at hab hba
            omega

theorem lexLe_trans {a b c : List Nat} (hab : lexLe a b = true) (hbc : lexLe b c = true) : lexLe a c = true := by
  induction a generalizing b c with
  | nil => rfl
  | cons x a ih =>
      cases b with
      | nil => cases hab
      | cons y b =>
          cases c with
          | nil => cases hbc
          | cons z c =>
              by_cases hxy : x = y
              · subst hxy
                by_cases hxz : x = z
                · subst hxz
                  simp only [lexLe, if_pos] at hab hbc ⊢
                  exact ih hab hbc
                · simpa [lexLe, hxz] using hbc
              · simp only [lexLe, if_neg hxy, decide_eq_true_eq] at hab
                by_cases hyz : y = z
                · subst hyz
                  simpa [lexLe, hxy] using hab
                · simp only [lexLe, if_neg hyz, decide_eq_true_eq] at hbc
                  have hxz : ¬ x = z := by omega
                  simp only [lexLe, if_neg hxz, decide_eq_true_eq]
                  omega

/-- Texts with the same code units are the same. -/
theorem utf16Codes_injective {first second : String} (h : utf16Codes first = utf16Codes second) : first = second := by
  have hjoin : ∀ text : String, Python.Json.joinUnits (utf16Codes text) = some text.toList := by
    intro text
    show Python.Json.joinUnits (text.toList.flatMap Python.Json.units) = _
    induction text.toList with
    | nil => rfl
    | cons c chars ih =>
        rw [List.flatMap_cons, Python.Json.joinUnits_units, ih]
        rfl
  have hlists : some first.toList = some second.toList := by rw [← hjoin, ← hjoin, h]
  exact String.toList_inj.mp (Option.some.inj hlists)

/-! ## `sort()` -/

/-- `first <= second` in JavaScript. -/
def TextLe (first second : String) : Prop :=
  lexLe (utf16Codes first) (utf16Codes second) = true

instance : DecidableRel TextLe :=
  fun first second => inferInstanceAs (Decidable (lexLe (utf16Codes first) (utf16Codes second) = true))

instance : Std.Total TextLe :=
  ⟨fun first second => lexLe_total (utf16Codes first) (utf16Codes second)⟩

instance : IsTrans String TextLe :=
  ⟨fun _ _ _ => lexLe_trans⟩

instance : Std.Antisymm TextLe :=
  ⟨fun _ _ hab hba => utf16Codes_injective (lexLe_antisymm hab hba)⟩

theorem jsSort_perm (texts : List String) : (jsSort texts).Perm texts :=
  List.perm_insertionSort _ texts

theorem jsSort_pairwise (texts : List String) : (jsSort texts).Pairwise TextLe :=
  List.pairwise_insertionSort TextLe texts

/-- The order of the texts is forgotten, and nothing else. -/
theorem jsSort_eq_iff {texts others : List String} : jsSort texts = jsSort others ↔ texts.Perm others := by
  constructor
  · intro h
    exact (jsSort_perm texts).symm.trans (h ▸ jsSort_perm others)
  · intro h
    exact ((jsSort_perm texts).trans (h.trans (jsSort_perm others).symm)).eq_of_pairwise' (jsSort_pairwise texts)
      (jsSort_pairwise others)

/-! ## `join(separator)` -/

/-- The pieces of a text between the separators. -/
def cut (separator : Char) (text : String) : List (List Char) :=
  text.toList.splitOn separator

/-- A joined text is cut into the pieces of its parts. -/
theorem splitOn_intercalate_flatMap {separator : Char} {parts : List (List Char)} (hne : parts ≠ []) :
    ([separator].intercalate parts).splitOn separator = parts.flatMap fun part => part.splitOn separator := by
  induction parts with
  | nil => exact absurd rfl hne
  | cons part parts ih =>
      cases parts with
      | nil => simp
      | cons next parts =>
          rw [List.intercalate_cons_cons, List.append_assoc, List.singleton_append, List.splitOn_append_cons_self,
            ih (List.cons_ne_nil next parts)]
          rfl

theorem toList_join (separator : Char) (parts : List String) :
    ((String.singleton separator).intercalate parts).toList = [separator].intercalate (parts.map String.toList) := by
  rw [String.toList_intercalate, String.toList_singleton]

/-- Joined texts are the same exactly if the separators cut their parts into the same pieces. -/
theorem join_eq_iff {separator : Char} {parts others : List String} (hparts : parts ≠ []) (hothers : others ≠ []) :
    (String.singleton separator).intercalate parts = (String.singleton separator).intercalate others ↔
      parts.flatMap (cut separator) = others.flatMap (cut separator) := by
  have hpieces : ∀ texts : List String, texts ≠ [] →
      ((String.singleton separator).intercalate texts).toList.splitOn separator = texts.flatMap (cut separator) := by
    intro texts hne
    rw [toList_join, splitOn_intercalate_flatMap (by simpa using hne), List.flatMap_map]
    rfl
  constructor
  · intro h
    rw [← hpieces parts hparts, ← hpieces others hothers, h]
  · intro h
    rw [← hpieces parts hparts, ← hpieces others hothers] at h
    -- a text is its pieces joined again
    have htexts := congrArg ([separator].intercalate) h
    rw [List.intercalate_splitOn, List.intercalate_splitOn] at htexts
    exact String.toList_inj.mp htexts

/-- A text without the separator is one piece. -/
theorem cut_of_clean {separator : Char} {text : String} (h : separator ∉ text.toList) :
    cut separator text = [text.toList] :=
  List.splitOn_eq_singleton h

/-- Texts without the separator are found again. -/
theorem join_inj_of_clean {separator : Char} {parts others : List String} (hparts : parts ≠ []) (hothers : others ≠ [])
    (hclean : ∀ part ∈ parts, separator ∉ part.toList) (hclean' : ∀ part ∈ others, separator ∉ part.toList) :
    (String.singleton separator).intercalate parts = (String.singleton separator).intercalate others ↔
      parts = others := by
  have hpieces : ∀ texts : List String, (∀ part ∈ texts, separator ∉ part.toList) →
      texts.flatMap (cut separator) = texts.map String.toList := by
    intro texts htexts
    induction texts with
    | nil => rfl
    | cons text texts ih =>
        rw [List.flatMap_cons, cut_of_clean (htexts text List.mem_cons_self),
          ih fun part hpart => htexts part (List.mem_cons_of_mem text hpart)]
        rfl
  rw [join_eq_iff hparts hothers, hpieces parts hclean, hpieces others hclean']
  constructor
  · intro h
    exact List.map_injective_iff.mpr (fun first second heq => String.toList_inj.mp heq) h
  · exact fun h => h ▸ rfl

end VoiceAssistants

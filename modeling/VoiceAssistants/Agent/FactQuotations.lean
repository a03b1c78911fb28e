import Mathlib.Data.List.Induction
import VoiceAssistants.Agent.CompanyFacts

/-!
# Approved facts are quotations

Where a fact that `match_approved_company_fact` returns comes from.  `ApprovedFact` is the specification: for each kind it
says which member of the context the value is, what is cut off, and how well the text has to match.  The matcher never
returns anything else, whatever the index was compiled from, and the index that a session has compiled gives the same facts
as its context.

A company name and the like are cut as well, so that the fact is not always the configured field itself.
-/

namespace VoiceAssistants
namespace VoiceBot

open Python (Json Coercions Regex Unicode)

section Specification

variable (unicode : Unicode) (letters : Letters) (coercions : Coercions) (context : Json) (query : FactQuery)

/-- A text that is configured, cut to a length: the name of the member, and the kind of the fact. -/
def cutFields : List (String × String × Nat) :=
  [("website_url", "website", 2048), ("company_name", "company_name", 255), ("timezone", "timezone", 64)]

/-- The facts that may be returned for a query. -/
inductive ApprovedFact : CompanyFactMatch → Prop
  /-- A configured question with its own answer. -/
  | faq (entries : List Json) (entry : Json) (question answer : String) (confidence : Rat)
      (hentries : context.member? "faq_entries" = some (.arr entries)) (hentry : entry ∈ entries.take 20)
      (hquestion : entry.member? "question" = some (.str question))
      (hanswer : entry.member? "answer" = some (.str answer))
      (hoverlap : query.strongOverlap (contentTokens unicode (cut 240 question)))
      (hconfidence : query.folded = strip (foldText unicode (cut 240 question)) ∨
        (1 / 2 ≤ (query.overlap (contentTokens unicode (cut 240 question)) : Rat) /
            (contentTokens unicode (cut 240 question)).card ∧
          1 / 2 ≤ query.coverage (contentTokens unicode (cut 240 question)))) :
      ApprovedFact
        ⟨"faq", .obj [("question", .str (cut 240 question)), ("answer", .str (cut 1200 answer))], confidence⟩
  /-- A passage of the notes. -/
  | reference (notes passage : String) (confidence : Rat)
      (hnotes : context.member? "knowledge_base_notes" = some (.str notes))
      (hlength : passage.toList.length ≤ 1200) (hquoted : passage.toList <:+: notes.toList.take 16000)
      (hmatch : query.strongPassageMatch letters ⟨passage, contentTokens unicode passage⟩ ∨ query.asksForNotes unicode) :
      ApprovedFact ⟨"reference", .str passage, confidence⟩
  | businessHours (members : List (String × Json)) (hhours : context.member? "business_hours" = some (.obj members)) :
      ApprovedFact ⟨"business_hours", .obj members, 1⟩
  /-- The contact texts, each under its own key. -/
  | contact (fields : List (String × Json))
      (hfields : ∀ field ∈ fields, field.1 ∈ ["support_email", "phone", "company_phone"] ∧
        context.member? field.1 = some field.2 ∧ ∃ text, field.2 = .str text) :
      ApprovedFact ⟨"contact", .obj fields, 1⟩
  /-- The text of a field, cut to its length. -/
  | configured (name kind : String) (length : Nat) (value : Json) (hkind : (name, kind, length) ∈ cutFields)
      (hvalue : context.member? name = some value) :
      ApprovedFact ⟨kind, .str (cut length (coercions.str value)), 1⟩

end Specification

/-! ## What the index holds -/

section Index

variable {unicode : Unicode} {coercions : Coercions}

@[simp] theorem toList_cut (length : Nat) (text : String) : (cut length text).toList = text.toList.take length :=
  String.toList_ofList

/-- A question is compiled with its own answer. -/
theorem compileFaqEntry_eq_some {entry : Json} {compiled : CompiledFaqEntry}
    (h : compileFaqEntry unicode entry = some compiled) :
    ∃ question answer, entry.member? "question" = some (.str question) ∧
      entry.member? "answer" = some (.str answer) ∧
      compiled = ⟨cut 240 question, cut 1200 answer, strip (foldText unicode (cut 240 question)),
        contentTokens unicode (cut 240 question)⟩ := by
  unfold compileFaqEntry at h
  split at h
  case h_1 question answer hquestion hanswer =>
    dsimp only at h
    split at h
    · cases h
    · exact ⟨question, answer, hquestion, hanswer, (Option.some.inj h).symm⟩
  case h_2 => cases h

theorem mem_compileFaqEntries {entries : Option Json} {compiled : CompiledFaqEntry}
    (h : compiled ∈ compileFaqEntries unicode entries) :
    ∃ configured, entries = some (.arr configured) ∧
      ∃ entry ∈ configured.take 20, compileFaqEntry unicode entry = some compiled := by
  unfold compileFaqEntries at h
  split at h
  case h_1 configured =>
    obtain ⟨entry, hentry, hcompiled⟩ := List.mem_filterMap.mp h
    exact ⟨configured, rfl, entry, hentry, hcompiled⟩
  case h_2 => cases h

/-- Stripping does not leave a text, and no piece is put together from two. -/
theorem infix_of_mem_strippedPieces {text piece : List Char} {pieces : List (List Char)}
    (hpieces : ∀ whole ∈ pieces, whole <:+: text) (h : piece ∈ strippedPieces pieces) : piece <:+: text := by
  unfold strippedPieces at h
  obtain ⟨whole, hwhole, rfl⟩ := List.mem_map.mp (List.mem_filter.mp h).1
  exact (Python.stripWhere_infix _ _).trans (hpieces whole hwhole)

theorem infix_of_mem_linePassages {line passage : List Char} (h : passage ∈ linePassages unicode line) :
    passage <:+: line := by
  unfold linePassages at h
  split at h
  · apply infix_of_mem_strippedPieces _ h
    intro whole hwhole
    exact Python.infix_of_mem_splitWhere hwhole
  · rw [List.mem_singleton.mp h]

/-- Chunks are contiguous in the notes, lines in their chunk, and sentences in their line. -/
theorem infix_of_mem_notePassages {notes : String} {passage : List Char} (h : passage ∈ notePassages unicode notes) :
    passage <:+: notes.toList.take 16000 := by
  unfold notePassages at h
  obtain ⟨chunk, hchunk, hpassage⟩ := List.mem_flatMap.mp h
  obtain ⟨line, hline, hsentence⟩ := List.mem_flatMap.mp hpassage
  have hcontained : chunk <:+: notes.toList.take 16000 := by
    apply infix_of_mem_strippedPieces _ hchunk
    intro whole hwhole
    exact Python.infix_of_mem_splitWhere hwhole
  have hinChunk : line <:+: chunk := by
    apply infix_of_mem_strippedPieces _ hline
    intro whole hwhole
    exact Python.infix_of_mem_splitlines hwhole
  exact (infix_of_mem_linePassages hsentence).trans (hinChunk.trans hcontained)

/-- A compiled passage is a quotation of the notes, with its own words. -/
theorem mem_compilePassages {notes : Option Json} {passage : CompiledReferencePassage}
    (h : passage ∈ compilePassages unicode notes) :
    ∃ text, notes = some (.str text) ∧ passage.value.toList.length ≤ 1200 ∧
      passage.value.toList <:+: text.toList.take 16000 ∧ passage.tokens = contentTokens unicode passage.value := by
  unfold compilePassages at h
  split at h
  case h_2 => cases h
  case h_1 text =>
    split at h
    · cases h
    · obtain ⟨quoted, hquoted, hcompiled⟩ := List.mem_filterMap.mp h
      unfold compilePassage at hcompiled
      dsimp only at hcompiled
      split at hcompiled
      · cases hcompiled
      · cases hcompiled
        have hinNotes := infix_of_mem_notePassages (List.mem_of_mem_take hquoted)
        refine ⟨text, rfl, ?_, ?_, rfl⟩
        · rw [String.toList_ofList]
          exact List.length_take_le _ _
        · rw [String.toList_ofList]
          exact (List.take_prefix _ _).isInfix.trans hinNotes

theorem mem_compileContact {context : Json} {field : String × Json} (h : field ∈ compileContact context) :
    field.1 ∈ ["support_email", "phone", "company_phone"] ∧ context.member? field.1 = some field.2 ∧
      ∃ text, field.2 = .str text := by
  unfold compileContact at h
  obtain ⟨key, hkey, hfield⟩ := List.mem_filterMap.mp h
  split at hfield
  case h_2 => cases hfield
  case h_1 text htext =>
    split at hfield
    · cases hfield
    · cases hfield
      exact ⟨hkey, htext, text, rfl⟩

theorem compileBusinessHours_eq_some {hours : Option Json} {members : List (String × Json)}
    (h : compileBusinessHours hours = some members) : hours = some (.obj members) := by
  unfold compileBusinessHours at h
  split at h
  case h_1 =>
    cases h
    rfl
  case h_2 => cases h

/-- A field that is not empty has been configured. -/
theorem fieldText_eq_cut {context : Json} {name : String} {length : Nat}
    (h : fieldText coercions context name length ≠ "") :
    ∃ value, context.member? name = some value ∧
      fieldText coercions context name length = cut length (coercions.str value) := by
  unfold fieldText at h ⊢
  split at h
  case h_2 => exact absurd rfl h
  case h_1 value hvalue =>
    split at h
    case isFalse => exact absurd rfl h
    case isTrue htruthy => exact ⟨value, hvalue, if_pos htruthy⟩

end Index

/-! ## What the matcher returns -/

section Matcher

variable {unicode : Unicode} {letters : Letters} {coercions : Coercions} {query : FactQuery}

/-- The best match after a configured question is the one before, or that question with its answer. -/
theorem considerFaq_eq_some {best : Option CompanyFactMatch} {entry : CompiledFaqEntry} {fact : CompanyFactMatch}
    (h : considerFaq query best entry = some fact) :
    best = some fact ∨
      fact = ⟨"faq", .obj [("question", .str entry.question), ("answer", .str entry.answer)],
        query.faqConfidence entry⟩ ∧ query.strongOverlap entry.tokens ∧ 1 / 2 ≤ query.faqConfidence entry := by
  unfold considerFaq at h
  dsimp only at h
  split at h
  case isTrue hmatch => exact .inr ⟨(Option.some.inj h).symm, hmatch.1, hmatch.2.1⟩
  case isFalse => exact .inl h

/-- Both quotients are at least a half, unless the text is the question. -/
theorem half_le_faqConfidence {entry : CompiledFaqEntry} (h : 1 / 2 ≤ query.faqConfidence entry) :
    query.folded = entry.foldedQuestion ∨
      (1 / 2 ≤ (query.overlap entry.tokens : Rat) / entry.tokens.card ∧ 1 / 2 ≤ query.coverage entry.tokens) := by
  unfold FactQuery.faqConfidence at h
  split at h
  case isTrue hquestion => exact .inl hquestion
  case isFalse => exact .inr (le_min_iff.mp h)

/-- The best match after a passage is the one before, or that passage. -/
theorem considerPassage_eq_some {best : Option CompanyFactMatch} {passage : CompiledReferencePassage}
    {fact : CompanyFactMatch} (h : considerPassage letters query best passage = some fact) :
    best = some fact ∨
      (fact = ⟨"reference", .str passage.value, min (19 / 20) (query.coverage passage.tokens)⟩ ∧
        query.strongPassageMatch letters passage) := by
  unfold considerPassage at h
  dsimp only at h
  split at h
  case isTrue hmatch => exact .inr ⟨(Option.some.inj h).symm, hmatch.1⟩
  case isFalse => exact .inl h

/-- A loop that keeps the best match returns one that a step has found. -/
theorem best_of_steps {α : Type} {step : Option CompanyFactMatch → α → Option CompanyFactMatch}
    {Approved : CompanyFactMatch → Prop} {items : List α} {start : Option CompanyFactMatch} {fact : CompanyFactMatch}
    (hstart : ∀ fact, start = some fact → Approved fact)
    (hstep : ∀ best item fact, item ∈ items → step best item = some fact → best = some fact ∨ Approved fact)
    (h : items.foldl step start = some fact) : Approved fact := by
  have hall : ∀ fact, items.foldl step start = some fact → Approved fact := by
    apply List.foldlRecOn (motive := fun best => ∀ fact, best = some fact → Approved fact) items step hstart
    intro best hbest item hitem fact hfact
    rcases hstep best item fact hitem hfact with hkept | hfound
    · exact hbest fact hkept
    · exact hfound
  exact hall fact h

variable {members : List (String × Json)} {fact : CompanyFactMatch}

/-- A compiled question that matches. -/
theorem approved_of_faqEntry {compiled : CompiledFaqEntry} {confidence : Rat}
    (hcompiled : compiled ∈ compileFaqEntries unicode ((Json.obj members).member? "faq_entries"))
    (hoverlap : query.strongOverlap compiled.tokens) (hconfidence : 1 / 2 ≤ query.faqConfidence compiled) :
    ApprovedFact unicode letters coercions (.obj members) query
      ⟨"faq", .obj [("question", .str compiled.question), ("answer", .str compiled.answer)], confidence⟩ := by
  obtain ⟨entries, hentries, entry, hentry, hcompile⟩ := mem_compileFaqEntries hcompiled
  obtain ⟨question, answer, hquestion, hanswer, hfields⟩ := compileFaqEntry_eq_some hcompile
  have hhalf := half_le_faqConfidence hconfidence
  subst hfields
  exact .faq entries entry question answer confidence hentries hentry hquestion hanswer hoverlap hhalf

/-- The best configured question. -/
theorem approved_of_faqEntries
    (h : (compileFaqEntries unicode ((Json.obj members).member? "faq_entries")).foldl (considerFaq query) none =
      some fact) : ApprovedFact unicode letters coercions (.obj members) query fact := by
  apply best_of_steps _ _ h
  · intro fact hfact
    cases hfact
  · intro best compiled fact hcompiled hfact
    apply (considerFaq_eq_some hfact).imp_right
    rintro ⟨rfl, hoverlap, hconfidence⟩
    exact approved_of_faqEntry hcompiled hoverlap hconfidence

/-- A compiled passage that matches, or that the text asks for. -/
theorem approved_of_passage {passage : CompiledReferencePassage} {confidence : Rat}
    (hpassage : passage ∈ compilePassages unicode ((Json.obj members).member? "knowledge_base_notes"))
    (hmatch : query.strongPassageMatch letters passage ∨ query.asksForNotes unicode) :
    ApprovedFact unicode letters coercions (.obj members) query ⟨"reference", .str passage.value, confidence⟩ := by
  obtain ⟨notes, hnotes, hlength, hquoted, htokens⟩ := mem_compilePassages hpassage
  rw [show passage = ⟨passage.value, contentTokens unicode passage.value⟩ by rw [← htokens]] at hmatch
  exact .reference notes passage.value confidence hnotes hlength hquoted hmatch

/-- The best match after the passages, if the one before them is approved. -/
theorem approved_of_passages {best : Option CompanyFactMatch}
    (hbest : ∀ fact, best = some fact → ApprovedFact unicode letters coercions (.obj members) query fact)
    (h : (compilePassages unicode ((Json.obj members).member? "knowledge_base_notes")).foldl
      (considerPassage letters query) best = some fact) :
    ApprovedFact unicode letters coercions (.obj members) query fact := by
  apply best_of_steps hbest _ h
  intro best passage fact hpassage hfact
  apply (considerPassage_eq_some hfact).imp_right
  rintro ⟨rfl, hmatch⟩
  exact approved_of_passage hpassage (.inl hmatch)

/-- A cut field that the index holds. -/
theorem approved_of_fieldText {name kind : String} {length : Nat} (hkind : (name, kind, length) ∈ cutFields)
    (h : fieldText coercions (.obj members) name length ≠ "") :
    ApprovedFact unicode letters coercions (.obj members) query
      ⟨kind, .str (fieldText coercions (.obj members) name length), 1⟩ := by
  obtain ⟨value, hvalue, htext⟩ := fieldText_eq_cut h
  rw [htext]
  exact .configured name kind length value hkind hvalue

theorem approved_of_configuredField {first : String × Json} {rest : List (String × Json)} {index : CompanyFactIndex}
    (hindex : compileCompanyFactIndex unicode coercions (some (first :: rest)) = some index)
    (h : configuredField unicode query index = some fact) :
    ApprovedFact unicode letters coercions (.obj (first :: rest)) query fact := by
  unfold compileCompanyFactIndex at hindex
  cases hindex
  unfold configuredField at h
  dsimp only at h
  split at h
  case isTrue hhours =>
    cases h
    obtain ⟨members, hmembers⟩ := Option.isSome_iff_exists.mp hhours.1
    rw [hmembers, Option.getD_some]
    exact .businessHours members (compileBusinessHours_eq_some hmembers)
  split at h
  case isTrue =>
    cases h
    apply ApprovedFact.contact
    intro field hfield
    exact mem_compileContact hfield
  split at h
  case isTrue hwebsite =>
    cases h
    exact approved_of_fieldText (.head _) hwebsite.1
  split at h
  case isTrue hname =>
    cases h
    exact approved_of_fieldText (.tail _ (.head _)) hname.1
  split at h
  case isTrue htimezone =>
    cases h
    exact approved_of_fieldText (.tail _ (.tail _ (.head _))) htimezone.1
  cases h

/-- Every match of an index is an approved fact of the context that it was compiled from. -/
theorem approved_of_matchIndex {first : String × Json} {rest : List (String × Json)} {index : CompanyFactIndex}
    (hindex : compileCompanyFactIndex unicode coercions (some (first :: rest)) = some index)
    (h : matchIndex unicode letters query index = some fact) :
    ApprovedFact unicode letters coercions (.obj (first :: rest)) query fact := by
  have hfaq : index.faqEntries = compileFaqEntries unicode ((Json.obj (first :: rest)).member? "faq_entries") := by
    rw [← Option.some.inj hindex]
  have hpassages : index.referencePassages =
      compilePassages unicode ((Json.obj (first :: rest)).member? "knowledge_base_notes") := by
    rw [← Option.some.inj hindex]
  have hbest : ∀ fact, index.faqEntries.foldl (considerFaq query) none = some fact →
      ApprovedFact unicode letters coercions (.obj (first :: rest)) query fact := by
    intro fact hfact
    rw [hfaq] at hfact
    exact approved_of_faqEntries hfact
  unfold matchIndex at h
  dsimp only at h
  split at h
  case h_1 passage passages hsome =>
    rw [← hsome, hpassages] at h
    have hpassage : passage ∈ compilePassages unicode ((Json.obj (first :: rest)).member? "knowledge_base_notes") := by
      rw [← hpassages, hsome]
      exact .head _
    split at h
    case isTrue hnotes =>
      cases h
      exact approved_of_passage hpassage (.inr hnotes)
    split at h
    case h_1 best hfound =>
      cases h
      exact approved_of_passages hbest hfound
    case h_2 => exact approved_of_configuredField hindex h
  case h_2 =>
    split at h
    case h_1 best hfound =>
      cases h
      exact hbest _ hfound
    case h_2 => exact approved_of_configuredField hindex h

end Matcher

/-- The compiled index of a context stands for it. -/
theorem matchApprovedCompanyFact_compiled {unicode : Unicode} {letters : Letters} {coercions : Coercions}
    (text : String) (companyContext : Option (List (String × Json))) :
    matchApprovedCompanyFact unicode letters coercions text companyContext
        (compileCompanyFactIndex unicode coercions companyContext) =
      matchApprovedCompanyFact unicode letters coercions text companyContext none := by
  unfold matchApprovedCompanyFact
  rw [Option.none_or, Option.or_self]

/-- Whatever the context and the text are, a fact that is returned is approved, and the compiled index returns the same. -/
theorem matched_facts_are_quotations (unicode : Unicode) (letters : Letters) (coercions : Coercions)
    (companyContext : Option (List (String × Json))) (text : String) :
    (∀ fact, matchApprovedCompanyFact unicode letters coercions text companyContext none = some fact →
      ∃ members, companyContext = some members ∧
        ApprovedFact unicode letters coercions (.obj members) (FactQuery.of unicode text) fact) ∧
    matchApprovedCompanyFact unicode letters coercions text companyContext
        (compileCompanyFactIndex unicode coercions companyContext) =
      matchApprovedCompanyFact unicode letters coercions text companyContext none := by
  constructor
  · intro fact h
    unfold matchApprovedCompanyFact at h
    rw [Option.none_or] at h
    split at h
    case h_1 => cases h
    case h_2 index hindex =>
      -- only a context with a member has an index
      match companyContext, hindex with
      | some (first :: rest), hindex => exact ⟨first :: rest, rfl, approved_of_matchIndex hindex h⟩
  · exact matchApprovedCompanyFact_compiled text companyContext

/-! ## A long company name -/

/-- Words that are left out do not matter for what a text asks only for. -/
theorem contentTokens_subset {unicode : Unicode} {text : String} {words : List String}
    (h : ∀ token ∈ tokens (foldText unicode text).toList, aliasOf token ∈ words) :
    contentTokens unicode text ⊆ words.toFinset := by
  intro word hword
  unfold contentTokens at hword
  dsimp only at hword
  obtain ⟨token, htoken, rfl⟩ := List.mem_map.mp (List.mem_toFinset.mp hword)
  exact List.mem_toFinset.mpr (h token (List.mem_filter.mp htoken).1)

/-- What is known of the characters in the example and in the words that are left out. -/
def sampleUnicode : Unicode where
  lower text := String.ofList (text.toList.map Char.toLower)
  casefold text := String.ofList (text.toList.map Char.toLower)
  nfkd text := String.ofList (text.toList.flatMap fun c => if c = 'é' then ['e', '\u0301'] else [c])
  combining c := c = '\u0301'
  isAlnum c := c.isAlphanum || c = 'é'
  isDecimal c := c.isDigit
  variants c := [c.toLower, c.toUpper]

def sampleLetters : Letters :=
  ⟨fun text => String.ofList (text.toList.map Char.toUpper), Char.isAlpha⟩

/-- Nothing but texts is configured in the example. -/
def textCoercions : Coercions :=
  ⟨default, fun _ => "", fun _ => .error .valueError⟩

def nameQuestion : String := "company name"

def namedContext (name : String) : List (String × Json) := [("company_name", .str name)]

theorem asksOnly_nameQuestion : (FactQuery.of sampleUnicode nameQuestion).asksOnly sampleUnicode companyNamePattern
    ["company", "business", "name", "who", "nom", "societe", "restaurant", "etes"] := by
  constructor
  · decide +kernel
  · apply contentTokens_subset
    have hwords : tokens (foldText sampleUnicode nameQuestion).toList = ["company", "name"] := by decide +kernel
    rw [hwords]
    decide +kernel

/-- The question is answered with the beginning of the name. -/
theorem match_nameQuestion {name : String} (hname : name ≠ "") :
    matchApprovedCompanyFact sampleUnicode sampleLetters textCoercions nameQuestion (some (namedContext name)) none =
      some ⟨"company_name", .str (cut 255 name), 1⟩ := by
  have hfield : fieldText textCoercions (.obj (namedContext name)) "company_name" 255 = cut 255 name := by
    have htruthy : (Json.str name).truthy = true := bne_iff_ne.mpr hname
    show (if (Json.str name).truthy then cut 255 name else "") = cut 255 name
    rw [if_pos htruthy]
  have hindex : compileCompanyFactIndex sampleUnicode textCoercions (some (namedContext name)) =
      some ⟨[], [], none, [], "", cut 255 name, ""⟩ := by
    rw [← hfield]
    rfl
  have hnotEmpty : cut 255 name ≠ "" := by
    intro hempty
    have hcut : name.toList.take 255 = [] := by
      rw [← toList_cut, hempty]
      rfl
    rcases List.take_eq_nil_iff.mp hcut with hzero | hnil
    · cases hzero
    · exact hname (String.toList_eq_nil_iff.mp hnil)
  unfold matchApprovedCompanyFact
  rw [Option.none_or, hindex]
  show configuredField _ _ _ = _
  unfold configuredField
  rw [if_neg (by simp), if_neg (by simp), if_neg (by simp), if_pos ⟨hnotEmpty, asksOnly_nameQuestion⟩]

/-- A name of 256 characters. -/
def longName : String := String.ofList (List.replicate 256 'a')

theorem length_longName : longName.toList.length = 256 := by
  unfold longName
  rw [String.toList_ofList, List.length_replicate]

theorem length_cut_longName : (cut 255 longName).toList.length = 255 := by
  rw [toList_cut, List.length_take, length_longName]
  rfl

/-- The company name that is returned need not be the one that is configured. -/
theorem long_company_name : ¬ ∀ (unicode : Unicode) (letters : Letters) (coercions : Coercions)
    (members : List (String × Json)) (text : String) (fact : CompanyFactMatch),
    matchApprovedCompanyFact unicode letters coercions text (some members) none = some fact →
      fact.kind = "company_name" → (Json.obj members).member? "company_name" = some fact.value := by
  intro hconfigured
  have hname : longName ≠ "" := by
    intro hempty
    have hlength := length_longName
    rw [hempty] at hlength
    cases hlength
  have hmember : (Json.obj (namedContext longName)).member? "company_name" = some (.str longName) := rfl
  have hfull := hconfigured _ _ _ _ _ _ (match_nameQuestion hname) rfl
  rw [hmember, Option.some.injEq, Json.str.injEq] at hfull
  have hlength := length_cut_longName
  rw [← hfull, length_longName] at hlength
  omega

end VoiceBot
end VoiceAssistants

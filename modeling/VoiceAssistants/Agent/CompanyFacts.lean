import Mathlib.Algebra.Order.Ring.Unbundled.Rat
import Mathlib.Data.Finset.Card
import VoiceAssistants.Agent.AssistantPolicy
import VoiceAssistants.Python.Coercions
import VoiceAssistants.Python.Splitting

/-!
# The approved facts of a company

`compile_company_fact_index` and `match_approved_company_fact` of `agent/assistant_policy.py`.  The index holds the
configured questions with their answers, and the passages that the notes are cut into; the matcher returns the best one of
them, or one of the other configured fields if the text asks for nothing else.

The context is a JSON object.  The confidence of a match is a rational number, which the floats of the source stand for: the
counts they are quotients of are numbers of words.

* `notePassages` — the notes are cut at blank lines and bullets, at line ends, and long lines between their sentences.
* `compileCompanyFactIndex` — what a session compiles once from its context.
* `matchIndex` — the running best match over the questions and the passages, then the other fields.
-/

namespace VoiceAssistants
namespace VoiceBot

open Python (Json Coercions Regex Unicode)

/-- The methods of `str` that a heading is recognized with. -/
structure Letters where
  /-- `text.upper()` -/
  upper : String → String
  /-- `c.isalpha()` -/
  isAlpha : Char → Bool

/-- `text[:length]` -/
def cut (length : Nat) (text : String) : String :=
  String.ofList (text.toList.take length)

/-! ## Words -/

/-- `_COMPANY_QUERY_STOP_WORDS` -/
def companyQueryStopWords : List String :=
  ["a", "an", "and", "are", "can", "could", "do", "does", "for", "from",
    "give", "how", "i", "in", "is", "it", "me", "of", "on", "please",
    "tell", "the", "there", "to", "what", "when", "where", "which", "who",
    "you", "your", "we", "our", "company", "business", "about",
    "have", "has", "had", "having", "if", "would", "should", "will", "shall",
    "may", "might", "must", "want", "wanted", "wants", "need", "needed", "needs",
    "know", "find", "get", "got", "provide", "share", "see",
    "offer", "offers", "offering", "available", "info", "information",
    "any", "some", "all", "much", "many", "more", "most", "also", "just",
    "a", "au", "aux", "avec", "ce", "ces", "dans", "de", "des", "du",
    "elle", "en", "est", "et", "il", "je", "la", "le", "les", "me",
    "nous", "ou", "pour", "que", "quel", "quelle", "quels", "quelles",
    "qui", "sur", "un", "une", "vous", "votre", "vos", "notre", "nos",
    "entreprise", "societe", "société", "restaurant", "pouvez", "dire",
    "avez", "avons", "ont", "avoir", "besoin", "voulez", "veut", "voudrais",
    "savoir", "trouver", "donner", "fournir", "voir", "proposez", "proposer",
    "disponible", "disponibles", "infos", "informations"]

/-- `_COMPANY_TOKEN_ALIASES` -/
def companyTokenAliases : List (String × String) :=
  [("opening", "open"), ("closing", "close"), ("opened", "open"), ("closed", "close"), ("horaires", "horaire"),
    ("parking", "park"), ("parks", "park"), ("parkings", "park"), ("stationnement", "park"), ("stationner", "park"),
    ("pricing", "price"), ("prices", "price"), ("prix", "price"), ("tarifs", "price"), ("tarif", "price"),
    ("cost", "price"), ("costs", "price"), ("location", "locate"), ("located", "locate"), ("address", "locate"),
    ("adresse", "locate"), ("directions", "locate"), ("direction", "locate"), ("wifi", "wifi"), ("internet", "wifi"),
    ("wi-fi", "wifi"), ("menus", "menu"), ("carte", "menu"), ("policy", "policy"), ("policies", "policy"),
    ("politique", "policy"), ("regles", "policy"), ("rule", "policy"), ("rules", "policy"), ("service", "serve"),
    ("services", "serve"), ("serving", "serve"), ("payment", "pay"), ("payments", "pay"), ("paiement", "pay"),
    ("paiements", "pay")]

/-- `_COMPANY_TOKEN_ALIASES.get(token, …)`, or the token without the `s` of a plural. -/
def aliasOf (token : String) : String :=
  match companyTokenAliases.find? (·.1 = token) with
  | some entry => entry.2
  | none => if token.toList.getLast? = some 's' ∧ 4 < token.length then String.ofList token.toList.dropLast else token

/-- A character of `[a-z0-9]`. -/
def isTokenChar (c : Char) : Bool :=
  ('a' ≤ c && c ≤ 'z') || ('0' ≤ c && c ≤ '9')

/-- `re.findall(r"[a-z0-9]+", text)` -/
def tokens (text : List Char) : List String :=
  let words := Python.splitWhere (fun _ rest => if rest.head?.any isTokenChar then 0 else 1) text
  (words.filter (· ≠ [])).map String.ofList

section Words

variable (unicode : Unicode)

/-- `_content_tokens` -/
def contentTokens (value : String) : Finset String :=
  let stopWords := companyQueryStopWords.map (foldText unicode)
  (((tokens (foldText unicode value).toList).filter fun token => token ∉ stopWords).map aliasOf).toFinset

variable (letters : Letters)

/-- The characters that are stripped from a heading. -/
def isHeadingMark (c : Char) : Bool :=
  " -:*•#0123456789.".toList.contains c

/-- `text.split(c, 1)[0]` -/
def beforeFirst (c : Char) (text : List Char) : List Char :=
  text.takeWhile (· ≠ c)

/-- `_looks_like_reference_heading`; a passage has a line. -/
def looksLikeReferenceHeading (value : String) : Bool :=
  let line := (Python.splitlines value.toList).headD []
  let firstLine := Python.stripWhere isHeadingMark (beforeFirst '(' line)
  let alphabetic := firstLine.filter letters.isAlpha
  if alphabetic.length < 3 then false
  else if letters.upper (String.ofList alphabetic) = String.ofList alphabetic then true
  else
    let rawFirstLine := Python.stripWhere isSpace line
    let headingPrefix := Python.stripWhere isHeadingMark (beforeFirst ':' rawFirstLine)
    if rawFirstLine.contains ':' && decide (3 ≤ headingPrefix.length) && decide (headingPrefix.length ≤ 40) then true
    else
      let words := (Python.splitWhere (fun _ rest => if rest.head?.any isSpace then 1 else 0) firstLine).filter (· ≠ [])
      decide (words.length ≤ 4) && decide (firstLine.length ≤ 30)

end Words

/-! ## The passages of the notes -/

section Passages

variable (unicode : Unicode)

/-- `\s*[-*•]|\s*\d+[.)]` matches at the start. -/
def startsBullet (text : List Char) : Bool :=
  let item := text.dropWhile isSpace
  let afterDigits := item.dropWhile unicode.isDecimal
  item.head?.any ['-', '*', '•'].contains ||
    item.head?.any unicode.isDecimal && afterDigits.head?.any ['.', ')'].contains

/-- `\n{2,}|\n(?=\s*[-*•]|\s*\d+[.)])` -/
def chunkSeparator (text : List Char) : Nat :=
  let newlines := (text.takeWhile (· = '\n')).length
  if 2 ≤ newlines then newlines
  else if newlines = 1 && startsBullet unicode (text.drop 1) then 1
  else 0

/-- A character of `[A-ZÀ-Ö]`. -/
def isCapital (c : Char) : Bool :=
  ('A' ≤ c && c ≤ 'Z') || ('À' ≤ c && c ≤ 'Ö')

/-- A character of `[A-Za-z0-9]`. -/
def isAsciiAlnum (c : Char) : Bool :=
  ('A' ≤ c && c ≤ 'Z') || ('a' ≤ c && c ≤ 'z') || ('0' ≤ c && c ≤ '9')

/-- `(?<!\b[A-Za-z0-9])`: the character before is not an initial. -/
def notAfterInitial (before : List Char) : Bool :=
  match before with
  | [] => true
  | c :: rest => !(isAsciiAlnum c && (rest.head?.any unicode.isWord != unicode.isWord c))

/-- `(?<=[!?])\s+(?=[A-ZÀ-Ö])|(?<!\b[A-Za-z0-9])(?<=\.)\s+(?=[A-ZÀ-Ö])` -/
def sentenceSeparator (before text : List Char) : Nat :=
  let spaces := (text.takeWhile isSpace).length
  let capitalFollows := (text.dropWhile isSpace).head?.any isCapital
  let afterMark := before.head?.any ['!', '?'].contains
  let afterStop := notAfterInitial unicode before && before.head?.any (· = '.')
  if 0 < spaces && capitalFollows && (afterMark || afterStop) then spaces else 0

/-- The stripped pieces that are not empty. -/
def strippedPieces (pieces : List (List Char)) : List (List Char) :=
  (pieces.map (Python.stripWhere isSpace)).filter (· ≠ [])

/-- A line of the notes, cut into sentences if it is long. -/
def linePassages (line : List Char) : List (List Char) :=
  if 160 < line.length then strippedPieces (Python.splitWhere (sentenceSeparator unicode) line) else [line]

/-- The passages of the notes. -/
def notePassages (notes : String) : List (List Char) :=
  let chunks := strippedPieces (Python.splitWhere (fun _ rest => chunkSeparator unicode rest) (notes.toList.take 16000))
  chunks.flatMap fun chunk => (strippedPieces (Python.splitlines chunk)).flatMap (linePassages unicode)

end Passages

/-! ## The index -/

structure CompiledFaqEntry where
  question : String
  answer : String
  foldedQuestion : String
  tokens : Finset String

structure CompiledReferencePassage where
  value : String
  tokens : Finset String

structure CompanyFactIndex where
  faqEntries : List CompiledFaqEntry
  referencePassages : List CompiledReferencePassage
  businessHours : Option (List (String × Json))
  contact : List (String × Json)
  websiteUrl : String
  companyName : String
  timezone : String

section Index

variable (unicode : Unicode) (coercions : Coercions)

/-- An entry of `faq_entries`, if it is compiled. -/
def compileFaqEntry (entry : Json) : Option CompiledFaqEntry :=
  match entry.member? "question", entry.member? "answer" with
  | some (.str question), some (.str answer) =>
      let boundedQuestion := cut 240 question
      let tokens := contentTokens unicode boundedQuestion
      if tokens.card < 2 then none
      else some ⟨boundedQuestion, cut 1200 answer, strip (foldText unicode boundedQuestion), tokens⟩
  | _, _ => none

/-- The configured questions. -/
def compileFaqEntries (entries : Option Json) : List CompiledFaqEntry :=
  match entries with
  | some (.arr entries) => (entries.take 20).filterMap (compileFaqEntry unicode)
  | _ => []

/-- A passage, if it has a word. -/
def compilePassage (passage : List Char) : Option CompiledReferencePassage :=
  let boundedPassage := String.ofList (passage.take 1200)
  let tokens := contentTokens unicode boundedPassage
  if tokens = ∅ then none else some ⟨boundedPassage, tokens⟩

/-- The passages of `knowledge_base_notes`. -/
def compilePassages (notes : Option Json) : List CompiledReferencePassage :=
  match notes with
  | some (.str notes) =>
      if strip notes = "" then [] else ((notePassages unicode notes).take 60).filterMap (compilePassage unicode)
  | _ => []

/-- `dict(hours) if isinstance(hours, Mapping) and hours else None` -/
def compileBusinessHours (hours : Option Json) : Option (List (String × Json)) :=
  match hours with
  | some (.obj (first :: rest)) => some (first :: rest)
  | _ => none

/-- The texts among the fields for the contact. -/
def compileContact (context : Json) : List (String × Json) :=
  ["support_email", "phone", "company_phone"].filterMap fun key =>
    match context.member? key with
    | some (.str text) => if strip text = "" then none else some (key, .str text)
    | _ => none

/-- `str(context.get(name))[:length] if context.get(name) else ""` -/
def fieldText (context : Json) (name : String) (length : Nat) : String :=
  match context.member? name with
  | some value => if value.truthy then cut length (coercions.str value) else ""
  | none => ""

/-- `compile_company_fact_index` -/
def compileCompanyFactIndex (companyContext : Option (List (String × Json))) : Option CompanyFactIndex :=
  match companyContext with
  | none | some [] => none
  | some (first :: rest) =>
      let context := Json.obj (first :: rest)
      some {
        faqEntries := compileFaqEntries unicode (context.member? "faq_entries")
        referencePassages := compilePassages unicode (context.member? "knowledge_base_notes")
        businessHours := compileBusinessHours (context.member? "business_hours")
        contact := compileContact context
        websiteUrl := fieldText coercions context "website_url" 2048
        companyName := fieldText coercions context "company_name" 255
        timezone := fieldText coercions context "timezone" 64 }

end Index

/-! ## The matcher -/

/-- The patterns that `match_approved_company_fact` searches for. -/
def notesPattern : String := "\\b(reference|notes?|knowledge|doc(?:s|ument)?|information)\\b"

def hoursPattern : String :=
  "\\b(hours?|open(?:ing)?|clos(?:e|ing)|horaires?|ouvert(?:ure)?|ferme(?:ture)?)\\b"

def contactPattern : String := "\\b(contact|support|email|phone|courriel|telephone|numero)\\b"

def websitePattern : String := "\\b(website|web\\s*site|site web|url)\\b"

def companyNamePattern : String :=
  "\\b(company|business)\\s+name\\b|\\bwho\\s+are\\s+you\\b|\\bnom\\s+(de\\s+)?(l'entreprise|la societe|du restaurant)\\b|\\bqui etes-vous\\b"

def timezonePattern : String := "\\btime\\s*zone\\b|\\bfuseau\\s*horaire\\b"

theorem allParse_factPatterns : Regex.AllParse
    [notesPattern, hoursPattern, contactPattern, websitePattern, companyNamePattern, timezonePattern] := by
  unfold notesPattern hoursPattern contactPattern websitePattern companyNamePattern timezonePattern
  repeat apply Regex.allParse_cons (by decide +kernel)
  exact Regex.allParse_nil

section Matcher

variable (unicode : Unicode) (letters : Letters) (coercions : Coercions)

/-- `re.search(pattern, text)` -/
def searches (pattern text : String) : Bool :=
  (Regex.parse pattern).any fun regex => regex.search unicode false text.toList

/-- What the matcher looks at in a text. -/
structure FactQuery where
  tokens : Finset String
  folded : String

def FactQuery.of (text : String) : FactQuery :=
  ⟨contentTokens unicode text, strip (foldText unicode text)⟩

/-- The number of words in common. -/
def FactQuery.overlap (query : FactQuery) (reference : Finset String) : Nat :=
  (query.tokens ∩ reference).card

/-- The part of the query's words that are in common. -/
def FactQuery.coverage (query : FactQuery) (reference : Finset String) : Rat :=
  query.overlap reference / max 1 query.tokens.card

/-- The confidence of a configured question. -/
def FactQuery.faqConfidence (query : FactQuery) (entry : CompiledFaqEntry) : Rat :=
  if query.folded = entry.foldedQuestion then 1
  else min (query.overlap entry.tokens / entry.tokens.card) (query.coverage entry.tokens)

/-- `strong_overlap` -/
def FactQuery.strongOverlap (query : FactQuery) (reference : Finset String) : Prop :=
  2 ≤ query.overlap reference ∨ (query.overlap reference = 1 ∧ query.tokens.card = 1)

instance (query : FactQuery) (reference : Finset String) : Decidable (query.strongOverlap reference) :=
  inferInstanceAs (Decidable (_ ∨ _))

/-- `strong_passage_match` -/
def FactQuery.strongPassageMatch (query : FactQuery) (passage : CompiledReferencePassage) : Prop :=
  (2 ≤ query.overlap passage.tokens ∧ 1 / 2 ≤ query.coverage passage.tokens) ∨
    (3 ≤ query.overlap passage.tokens ∧ 2 / 5 ≤ query.coverage passage.tokens) ∨
    (query.tokens.card = 1 ∧ query.overlap passage.tokens = 1 ∧
      looksLikeReferenceHeading letters passage.value = true)

instance (query : FactQuery) (passage : CompiledReferencePassage) :
    Decidable (query.strongPassageMatch letters passage) :=
  inferInstanceAs (Decidable (_ ∨ _ ∨ _))

/-- `best is None or confidence > best.confidence` -/
def improves (best : Option CompanyFactMatch) (confidence : Rat) : Bool :=
  best.all fun best => best.confidence < confidence

/-- The best match, once a configured question has been looked at. -/
def considerFaq (query : FactQuery) (best : Option CompanyFactMatch) (entry : CompiledFaqEntry) :
    Option CompanyFactMatch :=
  let confidence := query.faqConfidence entry
  if query.strongOverlap entry.tokens ∧ 1 / 2 ≤ confidence ∧ improves best confidence = true then
    some ⟨"faq", .obj [("question", .str entry.question), ("answer", .str entry.answer)], confidence⟩
  else best

/-- The best match, once a passage has been looked at. -/
def considerPassage (query : FactQuery) (best : Option CompanyFactMatch) (passage : CompiledReferencePassage) :
    Option CompanyFactMatch :=
  let confidence := min (19 / 20) (query.coverage passage.tokens)
  if query.strongPassageMatch letters passage ∧ improves best confidence = true then
    some ⟨"reference", .str passage.value, confidence⟩
  else best

/-- The text asks for something by name and for nothing else. -/
def FactQuery.asksOnly (query : FactQuery) (pattern : String) (words : List String) : Prop :=
  searches unicode pattern query.folded = true ∧ query.tokens ⊆ words.toFinset

instance (query : FactQuery) (pattern : String) (words : List String) :
    Decidable (query.asksOnly unicode pattern words) :=
  inferInstanceAs (Decidable (_ ∧ _))

/-- The text asks for the notes themselves. -/
def FactQuery.asksForNotes (query : FactQuery) : Prop :=
  query.asksOnly unicode notesPattern
    ["reference", "note", "knowledge", "base", "doc", "document", "info", "information", "check", "verify", "consulter",
      "say", "tell", "read", "look", "at", "access", "acces", "have"]

instance (query : FactQuery) : Decidable (query.asksForNotes unicode) :=
  inferInstanceAs (Decidable (query.asksOnly unicode _ _))

/-- The configured field that the text asks for. -/
def configuredField (query : FactQuery) (index : CompanyFactIndex) : Option CompanyFactMatch :=
  if index.businessHours.isSome ∧ query.asksOnly unicode hoursPattern
      ["hour", "hours", "open", "opening", "clos", "close", "closing", "horaire", "horaires", "ouvert", "ouverture",
        "ferme", "fermeture", "quand"] then
    some ⟨"business_hours", .obj (index.businessHours.getD []), 1⟩
  else if index.contact ≠ [] ∧ query.asksOnly unicode contactPattern
      ["contact", "support", "email", "phone", "number", "courriel", "telephone", "numero"] then
    some ⟨"contact", .obj index.contact, 1⟩
  else if index.websiteUrl ≠ "" ∧ query.asksOnly unicode websitePattern ["website", "web", "site", "url"] then
    some ⟨"website", .str index.websiteUrl, 1⟩
  else if index.companyName ≠ "" ∧ query.asksOnly unicode companyNamePattern
      ["company", "business", "name", "who", "nom", "societe", "restaurant", "etes"] then
    some ⟨"company_name", .str index.companyName, 1⟩
  else if index.timezone ≠ "" ∧ query.asksOnly unicode timezonePattern ["time", "zone", "fuseau", "horaire"] then
    some ⟨"timezone", .str index.timezone, 1⟩
  else none

/-- The best match of an index. -/
def matchIndex (query : FactQuery) (index : CompanyFactIndex) : Option CompanyFactMatch :=
  let best := index.faqEntries.foldl (considerFaq query) none
  match index.referencePassages with
  | first :: rest =>
      if query.asksForNotes unicode then some ⟨"reference", .str first.value, 1⟩
      else
        match (first :: rest).foldl (considerPassage letters query) best with
        | some best => some best
        | none => configuredField unicode query index
  | [] =>
      match best with
      | some best => some best
      | none => configuredField unicode query index

/-- `match_approved_company_fact` -/
def matchApprovedCompanyFact (text : String) (companyContext : Option (List (String × Json)))
    (compiledIndex : Option CompanyFactIndex) : Option CompanyFactMatch :=
  match compiledIndex.or (compileCompanyFactIndex unicode coercions companyContext) with
  | none => none
  | some index => matchIndex unicode letters (FactQuery.of unicode text) index

end Matcher

end VoiceBot
end VoiceAssistants

import VoiceAssistants.Python.Regex

/-!
# The scope guard of the assistant

`classify_assistant_turn` of `agent/assistant_policy.py`, with the patterns of `frontend/src/lib/assistantPolicy.json` that
it shares with the browser, and the detection of explicit language requests.  What `match_approved_company_fact` finds in
the published facts of the company is a parameter.
-/

namespace VoiceAssistants
namespace VoiceBot

open Python (Json Regex Unicode)

/-! ## Languages -/

/-- `SUPPORTED_RESPONSE_LANGUAGES` -/
inductive Language
  | frFR
  | frBE
  | en
  deriving DecidableEq

def Language.code : Language → String
  | .frFR => "fr-FR"
  | .frBE => "fr-BE"
  | .en => "en"

/-- The language of a code; `none` is not supported. -/
def Language.ofCode? (code : String) : Option Language :=
  [Language.frFR, .frBE, .en].find? (·.code = code)

/-! ## Patterns -/

/-- The names of `patterns`. -/
inductive PatternGroup
  | hardDiversion
  | offTopic
  | calendarIntent
  | social
  | calendarFollowUp
  | unclear
  | unsupportedLanguage
  deriving DecidableEq

def PatternGroup.patterns : PatternGroup → List String
  | .hardDiversion =>
      ["\\b(ignore|disregard|override|forget)\\b.\x7b0,60\x7d\\b(instruction|prompt|policy|rule)s?\\b",
       "\\b(reveal|show|print|repeat|quote|summarize)\\b.\x7b0,40\x7d\\b(system|developer|hidden)\\s+(prompt|instruction|message)s?\\b",
       "\\b(jailbreak|developer mode|unrestricted mode|do anything now)\\b",
       "\\b(role\\s*-?\\s*play|pretend to be|act as|become)\\b"]
  | .offTopic =>
      ["\\b(tell|give|write|make)\\b.\x7b0,30\x7d\\b(joke|story|poem|song|recipe)\\b",
       "\\b(raconte|écris|ecris|compose|donne)\\b.\x7b0,30\x7d\\b(blague|histoire|poème|poeme|chanson|recette)\\b",
       "\\b(weather|headlines?|news|politics|political|sports score|stock price|cryptocurrency)\\b",
       "\\b(météo|meteo|actualités|actualites|politique|score sportif|cours de bourse|cryptomonnaie)\\b",
       "\\b(write|debug|review|explain|generate)\\b.\x7b0,30\x7d\\b(code|program|script|software)\\b",
       "\\b(écris|ecris|débogue|debogue|explique|génère|genere)\\b.\x7b0,30\x7d\\b(code|programme|script|logiciel)\\b",
       "\\b(medical|legal|financial|relationship|dating)\\s+(advice|question|help)\\b",
       "\\b(conseil|question|aide)\\s+(médical|medical|juridique|financier|relationnel)\\b",
       "\\b(capital of|who is the president|what is the meaning of|what is [0-9]+\\s*[+*/-]\\s*[0-9]+)\\b",
       "\\b(capitale de|qui est le président|qui est le president|que signifie|combien font [0-9]+\\s*[+*/-]\\s*[0-9]+)\\b"]
  | .calendarIntent =>
      ["\\b(calendar|calendars|meeting|meetings|appointment|appointments|event|events|availability|available times?|free times?|free slots?|booking|bookings|sync|catch\\s*up)\\b",
       "\\b(calendrier|agenda|réunion|reunion|réunions|reunions|rendez-vous|événement|evenement|événements|evenements|disponibilité|disponibilite|disponibilités|disponibilites|créneau|creneau|créneaux|creneaux|réservation|reservation|réservations|reservations)\\b",
       "\\b(book|schedule|reserve|cancel|reschedule|move|shift|set\\s*up|create|organize|plan)\\b.\x7b0,60\x7d\\b(meeting|appointment|event|call|slot|calendar|session|sync|time)\\b",
       "\\b(réserver|reserver|planifier|annuler|déplacer|deplacer|reprogrammer|organiser|créer|creer)\\b.\x7b0,60\x7d\\b(réunion|reunion|rendez-vous|événement|evenement|appel|créneau|creneau|agenda|calendrier|session|heure)\\b",
       "\\b(book|schedule|reserve|set\\s*up)\\b.\x7b0,40\x7d\\b(for|at|on|tomorrow|today|monday|tuesday|wednesday|thursday|friday|saturday|sunday)\\b",
       "\\b(réserver|reserver|planifier|organiser)\\b.\x7b0,40\x7d\\b(pour|à|a|demain|aujourd'hui|lundi|mardi|mercredi|jeudi|vendredi|samedi|dimanche)\\b",
       "\\b(what(?:'s| is) on my schedule|do i have anything scheduled|check my schedule|check my calendar|when am i free)\\b",
       "\\b(qu'est-ce que j'ai dans mon agenda|ai-je quelque chose de prévu|verifie mon agenda|vérifie mon agenda|quand suis-je libre)\\b"]
  | .social =>
      ["^(hi|hello|hey|good morning|good afternoon|good evening)[!. ]*$",
       "^(bonjour|salut|bonsoir|bonne journée|bonne journee)[!. ]*$",
       "^(thanks|thank you|okay|ok|got it|cool|great)[!. ]*$",
       "^(merci|d'accord|compris|très bien|tres bien|parfait)[!. ]*$",
       "^(bye|goodbye|bye bye|see you|have a (good|great|nice) day|talk to you later)[!. ]*$",
       "^(au revoir|bonne journ[eé]e|bonne soir[eé]e|à bient[oô]t|a bientot)[!. ]*$",
       "^(that(?:'s| is) all|that(?:'s| is) everything|nothing else|no that(?:'s| is) all|no thanks|no thank you|i(?:'m| am) all set|all done|that will be all|hang up|end (the )?call)(?:,?\\s*(?:thanks|thank you))?[!. ]*$",
       "^(?:thanks|thank you)[, ]+(that(?:'s| is) all|that(?:'s| is) everything)[!. ]*$",
       "^(c'est tout|ce sera tout|rien d'autre|merci c'est tout|raccrocher)[!. ]*$",
       "\\b(what can you do|how can you help|are you there|who are you)\\b",
       "\\b(que pouvez-vous faire|comment pouvez-vous m'aider|vous êtes là|vous etes la|qui êtes-vous|qui etes-vous)\\b"]
  | .calendarFollowUp =>
      ["\\b(today|tomorrow|tonight|monday|tuesday|wednesday|thursday|friday|saturday|sunday|morning|afternoon|evening|january|february|march|april|may|june|july|august|september|october|november|december)\\b",
       "\\b(at\\s+)?([01]?\\d|2[0-3])(?::[0-5]\\d)?\\s*(am|pm)?\\b",
       "^(yes|no|confirm|do it|that works|sounds good|please do|sure|cancel it|book it|move it|make it so|proceed|go ahead)[!. ]*$",
       "\\b(\\d+|half an?|an?)\\s*(minutes?|hours?)\\b",
       "\\b(add|invite|remove|with)\\b.\x7b0,30\x7d\\b(attendee|guest|email|them|him|her|[a-zA-Z0-9._%+-]+@[a-zA-Z0-9.-]+\\.[a-zA-Z]\x7b2,\x7d)\\b"]
  | .unclear =>
      ["^(uh+|um+|erm+|h+m+|huh|eh+|euh+|heu+|inaudible|unintelligible)[.!? ]*$",
       "^\\[(inaudible|unintelligible|noise)\\]$"]
  | .unsupportedLanguage =>
      ["[\\u0400-\\u052f\\u0600-\\u06ff\\u0750-\\u077f\\u4e00-\\u9fff]",
       "\\b(hola|buenos días|buenos dias|gracias|necesito|quisiera|por favor)\\b",
       "\\b(guten tag|danke|ich möchte|ich mochte|bitte)\\b",
       "\\b(goedemorgen|dank u|ik wil|alstublieft)\\b",
       "\\b(buongiorno|grazie|vorrei|per favore)\\b",
       "\\b(obrigado|obrigada|bom dia|eu gostaria|por favor)\\b"]

/-- `_LANGUAGE_SWITCH_PATTERNS` -/
def languageSwitchPatterns : List (Language × List String) :=
  [(.frBE,
    ["^\\s*(?:please\\s+)?(?:speak|switch|continue|respond|use|talk|change)(?:\\s+to|\\s+in)?\\s+(?:belgian french|french from belgium|french belgium)\\s*[.!?]*$",
     "^\\s*(?:parle|parlez|reponds|repondez|continue|continuez|passe|passez|pouvez-vous parler|parlez-vous)(?:\\s+en|\\s+le|\\s+du)?\\s+francais\\s+(?:belge|de\\s+belgique)(?:\\s*,?\\s*(?:s[’']il vous plait|svp|please))?\\s*[.!?]*$",
     "^\\s*(?:in|en|dans un)\\s+francais\\s+(?:belge|de\\s+belgique)\\s*[.!?]*$",
     "^\\s*(?:belgian french|french from belgium|french belgium|francais belge|francais de belgique)\\s*[.!?]*$"]),
   (.en,
    ["^\\s*(?:please\\s+)?(?:speak|switch|continue|respond|use|talk|change)(?:\\s+to|\\s+in)?\\s+english(?:\\s*,?\\s*please)?\\s*[.!?]*$",
     "^\\s*(?:(?:can|could)\\s+you|can\\s+we|please)?\\s*(?:speak|talk|switch|continue|respond|use)\\s+(?:in\\s+)?english(?:\\s*,?\\s*please)?\\s*[.!?]*$",
     "^\\s*(?:parle|parlez|reponds|repondez|continue|continuez|passe|passez|pouvez-vous parler|parlez-vous)(?:\\s+en|\\s+le)?\\s+anglais(?:\\s*,?\\s*(?:s[’']il vous plait|svp|please))?\\s*[.!?]*$",
     "^\\s*(?:in english|en anglais)\\s*[.!?]*$",
     "^\\s*(?:english|anglais)\\s*[.!?]*$"]),
   (.frFR,
    ["^\\s*(?:please\\s+)?(?:speak|switch|continue|respond|use|talk|change)(?:\\s+to|\\s+in)?\\s+(?:general\\s+)?french(?:\\s*,?\\s*please)?\\s*[.!?]*$",
     "^\\s*(?:(?:can|could)\\s+you|can\\s+we|please)?\\s*(?:speak|talk|switch|continue|respond|use)\\s+(?:in\\s+)?(?:general\\s+)?french(?:\\s*,?\\s*please)?\\s*[.!?]*$",
     "^\\s*(?:parle|parlez|reponds|repondez|continue|continuez|passe|passez|pouvez-vous parler|parlez-vous)(?:\\s+en|\\s+le)?\\s+francais(?:\\s*,?\\s*(?:s[’']il vous plait|svp|please))?\\s*[.!?]*$",
     "^\\s*(?:in french|en francais)\\s*[.!?]*$",
     "^\\s*(?:french|general french|francais)\\s*[.!?]*$"])]

/-- `_EXPLICIT_LANGUAGE_REQUEST_PATTERNS` -/
def explicitLanguageRequestPatterns : List String :=
  ["\\b(?:speak|switch|continue|respond|use|talk|change)(?:\\s+to|\\s+in)?\\s+[a-z][a-z -]\x7b1,30\x7d\\b",
   "\\b(?:parle|parlez|reponds|repondez|continue|continuez|passe|passez|pouvez-vous parler|parlez-vous)(?:\\s+en|\\s+le)?\\s+[a-z][a-z -]\x7b1,30\x7d\\b"]

/-- Every pattern is in the syntax that `Regex.parse` reads. -/
theorem allParse_patterns (group : PatternGroup) : Regex.AllParse group.patterns := by
  cases group with
  | hardDiversion =>
      repeat apply Regex.allParse_cons (by decide +kernel)
      exact Regex.allParse_nil
  | offTopic =>
      repeat apply Regex.allParse_cons (by decide +kernel)
      exact Regex.allParse_nil
  | calendarIntent =>
      repeat apply Regex.allParse_cons (by decide +kernel)
      exact Regex.allParse_nil
  | social =>
      repeat apply Regex.allParse_cons (by decide +kernel)
      exact Regex.allParse_nil
  | calendarFollowUp =>
      repeat apply Regex.allParse_cons (by decide +kernel)
      exact Regex.allParse_nil
  | unclear =>
      repeat apply Regex.allParse_cons (by decide +kernel)
      exact Regex.allParse_nil
  | unsupportedLanguage =>
      repeat apply Regex.allParse_cons (by decide +kernel)
      exact Regex.allParse_nil

theorem allParse_languageSwitchPatterns : ∀ language ∈ languageSwitchPatterns, Regex.AllParse language.2 := by
  unfold languageSwitchPatterns
  simp only [List.forall_mem_cons]
  refine ⟨?_, ?_, ?_, fun _ hnone => nomatch hnone⟩
  · repeat apply Regex.allParse_cons (by decide +kernel)
    exact Regex.allParse_nil
  · repeat apply Regex.allParse_cons (by decide +kernel)
    exact Regex.allParse_nil
  · repeat apply Regex.allParse_cons (by decide +kernel)
    exact Regex.allParse_nil

theorem allParse_explicitLanguageRequestPatterns : Regex.AllParse explicitLanguageRequestPatterns := by
  repeat apply Regex.allParse_cons (by decide +kernel)
  exact Regex.allParse_nil

section Matching

variable (unicode : Unicode)

/-- `_matches` -/
@[irreducible] def matchesGroup (group : PatternGroup) (text : String) : Bool :=
  (group.patterns.filterMap Regex.parse).any fun pattern => pattern.search unicode true text.toList

/-- `_fold_text` -/
def foldText (value : String) : String :=
  String.ofList ((unicode.nfkd (unicode.casefold value)).toList.filter fun c => !unicode.combining c)

/-- `detect_explicit_language_switch` -/
@[irreducible] def detectExplicitLanguageSwitch (userInput : String) : Option Language :=
  let text := (foldText unicode userInput).toList
  (languageSwitchPatterns.find? fun language =>
    (language.2.filterMap Regex.parse).any fun pattern => pattern.search unicode false text).map Prod.fst

/-- `is_explicit_language_request` -/
@[irreducible] def isExplicitLanguageRequest (userInput : String) : Bool :=
  let outer := [' ', '.', '!', '?', '\t', '\r', '\n'].contains
  let text := ((foldText unicode userInput).toList.dropWhile outer).rdropWhile outer
  (explicitLanguageRequestPatterns.filterMap Regex.parse).any fun pattern => pattern.search unicode false text

end Matching

/-! ## Decisions -/

inductive TurnAction
  | allow
  | clarify
  | redirect
  deriving DecidableEq

inductive TurnReason
  | calendarIntent
  | calendarFollowUp
  | companyCapability
  | calendarUnavailable
  | social
  | hardDiversion
  | offTopic
  | unsupportedLanguage
  | unclearInput
  | emptyInput
  deriving DecidableEq

structure ScopeDecision where
  action : TurnAction
  reason : TurnReason
  calendarContextActive : Bool
  deriving DecidableEq

/-- An approved fact of the company, and how well it matches. -/
structure CompanyFactMatch where
  kind : String
  value : Json
  confidence : Rat

/-- The configuration of a capability has it enabled. -/
def capabilityEnabled (config : Json) : Bool :=
  match config with
  | .obj members => ((Json.obj members).member? "enabled").any Json.truthy
  | config => config.truthy

/-- The names of the capabilities that are enabled; without a configuration it is the calendar. -/
def enabledCapabilities (companyCapabilities : Option (List (String × Json))) : List String :=
  match companyCapabilities with
  | none => ["google_calendar"]
  | some capabilities => (capabilities.filter fun capability => capabilityEnabled capability.2).map Prod.fst

/-- The company has answers of its own enabled. -/
def companyScopeEnabled (enabled : List String) : Bool :=
  enabled.contains "company_receptionist" || enabled.contains "company_faq"

section Classification

variable (unicode : Unicode) (companyFact : String → Option CompanyFactMatch)

/-- `_matches_approved_company_content` -/
def matchesApprovedCompanyContent (text : String) (enabled : List String) : Bool :=
  match companyFact text with
  | none => false
  | some _ => companyScopeEnabled enabled

/-- `classify_assistant_turn` -/
def classifyAssistantTurn (userInput : String) (calendarContextActive : Bool)
    (companyCapabilities : Option (List (String × Json))) : ScopeDecision :=
  let enabled := enabledCapabilities companyCapabilities
  let calendarEnabled := enabled.contains "google_calendar"
  let text := unicode.lower (strip userInput)
  if text = "" then ⟨.clarify, .emptyInput, calendarContextActive⟩
  else if matchesGroup unicode .unclear text then ⟨.clarify, .unclearInput, calendarContextActive⟩
  else if isExplicitLanguageRequest unicode text && (detectExplicitLanguageSwitch unicode text).isNone then
    ⟨.clarify, .unsupportedLanguage, calendarContextActive⟩
  else if matchesGroup unicode .unsupportedLanguage text then ⟨.clarify, .unsupportedLanguage, calendarContextActive⟩
  else if matchesGroup unicode .hardDiversion text then ⟨.redirect, .hardDiversion, false⟩
  else if matchesGroup unicode .offTopic text then ⟨.redirect, .offTopic, false⟩
  else if matchesGroup unicode .calendarIntent text then
    if calendarEnabled then ⟨.allow, .calendarIntent, true⟩ else ⟨.redirect, .calendarUnavailable, false⟩
  else if matchesGroup unicode .social text then ⟨.allow, .social, calendarContextActive⟩
  else if calendarContextActive && matchesGroup unicode .calendarFollowUp text then
    if calendarEnabled then ⟨.allow, .calendarFollowUp, true⟩ else ⟨.redirect, .calendarUnavailable, false⟩
  else if companyScopeEnabled enabled && matchesApprovedCompanyContent companyFact text enabled then
    ⟨.allow, .companyCapability, false⟩
  else ⟨.redirect, .offTopic, false⟩

/-- A choice between decisions that leave the context closed leaves it closed. -/
theorem closed_ite {c : Prop} [Decidable c] {decision other : ScopeDecision} (h : decision.calendarContextActive = false)
    (hother : other.calendarContextActive = false) : (if c then decision else other).calendarContextActive = false := by
  split
  · exact h
  · exact hother

/-- A decision opens the context of the calendar only where the calendar is enabled, or leaves it open. -/
theorem calendarContext_of_classify {userInput : String} {calendarContextActive : Bool}
    {companyCapabilities : Option (List (String × Json))}
    (h : (classifyAssistantTurn unicode companyFact userInput calendarContextActive
      companyCapabilities).calendarContextActive = true) :
    calendarContextActive = true ∨ (enabledCapabilities companyCapabilities).contains "google_calendar" = true := by
  cases hactive : calendarContextActive with
  | true => exact .inl rfl
  | false =>
      right
      cases henabled : (enabledCapabilities companyCapabilities).contains "google_calendar" with
      | true => rfl
      | false =>
          -- a decision that leaves the context as it is leaves it closed
          have hclosed : (classifyAssistantTurn unicode companyFact userInput calendarContextActive
              companyCapabilities).calendarContextActive = false := by
            unfold classifyAssistantTurn
            rw [hactive]
            simp only [henabled, Bool.false_eq_true, if_false]
            repeat' apply closed_ite
            all_goals rfl
          rw [hclosed] at h
          cases h

end Classification

end VoiceBot
end VoiceAssistants

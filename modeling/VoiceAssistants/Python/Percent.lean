import VoiceAssistants.Text

/-!
# Percent encoding (`urllib.parse.quote` and `unquote`)

`quote` writes every character but the unreserved ones and the slash as the percent-encoded bytes of its UTF-8 encoding.
`unquote` takes the runs of ASCII characters, decodes their bytes as UTF-8, and puts U+FFFD where the bytes are no UTF-8;
a percent sign that two hexadecimal digits do not follow stays.

`unquote_quote` is the round trip of an ASCII text.
-/

namespace VoiceAssistants
namespace Python

/-! ## `quote` -/

/-- The characters that `quote` leaves alone. -/
def isSafe (c : Char) : Bool :=
  c.isAlphanum || c == '_' || c == '.' || c == '-' || c == '~' || c == '/'

def utf8Bytes (c : Char) : List Nat :=
  let code := c.toNat
  if code < 0x80 then [code]
  else if code < 0x800 then [0xc0 + code / 0x40, 0x80 + code % 0x40]
  else if code < 0x10000 then [0xe0 + code / 0x1000, 0x80 + code / 0x40 % 0x40, 0x80 + code % 0x40]
  else [0xf0 + code / 0x40000, 0x80 + code / 0x1000 % 0x40, 0x80 + code / 0x40 % 0x40, 0x80 + code % 0x40]

def percentByte (byte : Nat) : List Char :=
  ['%', (Nat.digitChar (byte / 16 % 16)).toUpper, (Nat.digitChar (byte % 16)).toUpper]

def quoteChar (c : Char) : List Char :=
  if isSafe c then [c] else (utf8Bytes c).flatMap percentByte

/-- `quote(text)` -/
def quote (text : List Char) : List Char :=
  text.flatMap quoteChar

/-! ## `unquote` -/

/-- `unquote_to_bytes(text)` of an ASCII text. -/
def unquoteBytes : List Char → List Nat
  | [] => []
  | '%' :: high :: low :: rest =>
      match hexDigit high, hexDigit low with
      | some high, some low => (high * 16 + low) :: unquoteBytes rest
      | _, _ => 0x25 :: unquoteBytes (high :: low :: rest)
  | c :: rest => c.toNat :: unquoteBytes rest

/-- What a leading byte stands for: how many bytes follow it, the range of the first of them, and its own bits. -/
def utf8Lead (byte : Nat) : Option (Nat × Nat × Nat × Nat) :=
  if 0xc2 ≤ byte ∧ byte ≤ 0xdf then some (1, 0x80, 0xbf, byte - 0xc0)
  else if byte = 0xe0 then some (2, 0xa0, 0xbf, byte - 0xe0)
  else if byte = 0xed then some (2, 0x80, 0x9f, byte - 0xe0)
  else if 0xe1 ≤ byte ∧ byte ≤ 0xef then some (2, 0x80, 0xbf, byte - 0xe0)
  else if byte = 0xf0 then some (3, 0x90, 0xbf, byte - 0xf0)
  else if 0xf1 ≤ byte ∧ byte ≤ 0xf3 then some (3, 0x80, 0xbf, byte - 0xf0)
  else if byte = 0xf4 then some (3, 0x80, 0x8f, byte - 0xf0)
  else none

/-- The continuation bytes at the start, at most `count`. -/
def continuation : (count low high : Nat) → List Nat → List Nat
  | count + 1, low, high, byte :: rest =>
      if low ≤ byte ∧ byte ≤ high then byte :: continuation count 0x80 0xbf rest else []
  | _, _, _, _ => []

/-- `data.decode("utf-8", "replace")`; the first argument bounds the length. -/
def decodeUtf8 : Nat → List Nat → List Char
  | fuel + 1, byte :: rest =>
      if byte < 0x80 then Char.ofNat byte :: decodeUtf8 fuel rest
      else
        match utf8Lead byte with
        | none => Char.ofNat 0xfffd :: decodeUtf8 fuel rest
        | some (count, low, high, bits) =>
            let tail := continuation count low high rest
            if tail.length = count then
              Char.ofNat (tail.foldl (fun code byte => code * 0x40 + (byte - 0x80)) bits) ::
                decodeUtf8 fuel (rest.drop count)
            else Char.ofNat 0xfffd :: decodeUtf8 fuel (rest.drop tail.length)
  | _, _ => []

/-- The text of a run of ASCII characters. -/
def unquoteRun (run : List Char) : List Char :=
  decodeUtf8 (unquoteBytes run).length (unquoteBytes run)

/-- The runs of a text; `run` is the one that is being read. -/
def unquoteRuns : (run : List Char) → List Char → List Char
  | run, [] => unquoteRun run
  | run, c :: rest =>
      if c.toNat < 0x80 then unquoteRuns (run ++ [c]) rest else unquoteRun run ++ c :: unquoteRuns [] rest

/-- `unquote(text)` -/
def unquote (text : List Char) : List Char :=
  unquoteRuns [] text

example : unquote "caf%C3%A9 %zz%F0%9F".toList = "café %zz\uFFFD".toList := by decide +kernel

/-! ## The round trip -/

/-- An ASCII text. -/
def IsAscii (text : List Char) : Prop :=
  ∀ c ∈ text, c.toNat < 0x80

theorem unquoteRuns_ascii {run text : List Char} (h : IsAscii text) : unquoteRuns run text = unquoteRun (run ++ text) := by
  induction text generalizing run with
  | nil => rw [unquoteRuns, List.append_nil]
  | cons c text ih =>
      rw [unquoteRuns, if_pos (h c List.mem_cons_self), ih fun other hmem => h other (List.mem_cons_of_mem _ hmem),
        List.append_assoc, List.singleton_append]

theorem decodeUtf8_ascii {text : List Char} (h : IsAscii text) :
    decodeUtf8 (text.map Char.toNat).length (text.map Char.toNat) = text := by
  induction text with
  | nil => rfl
  | cons c text ih =>
      have hc : c.toNat < 0x80 := h c List.mem_cons_self
      rw [List.map_cons, List.length_cons, decodeUtf8, if_pos hc, Char.ofNat_toNat,
        ih fun other hmem => h other (List.mem_cons_of_mem _ hmem)]

theorem hexDigit_upper : ∀ d < 16, hexDigit (Nat.digitChar d).toUpper = some d := by
  decide

theorem toNat_upper : ∀ d < 16, (Nat.digitChar d).toUpper.toNat < 0x80 := by
  decide

theorem unquoteBytes_percentByte {byte : Nat} (h : byte < 256) (rest : List Char) :
    unquoteBytes (percentByte byte ++ rest) = byte :: unquoteBytes rest := by
  have hhigh := hexDigit_upper (byte / 16 % 16) (by omega)
  have hlow := hexDigit_upper (byte % 16) (by omega)
  simp only [percentByte, List.cons_append, List.nil_append, unquoteBytes, hhigh, hlow]
  congr 1
  omega

theorem unquoteBytes_plain {c : Char} (h : c ≠ '%') (rest : List Char) :
    unquoteBytes (c :: rest) = c.toNat :: unquoteBytes rest := by
  rw [unquoteBytes]
  rintro high low rest' rfl
  exact absurd rfl h

theorem isSafe_ne_percent {c : Char} (h : isSafe c = true) : c ≠ '%' := by
  rintro rfl
  revert h
  decide

/-- The bytes of a quoted character are those of the character. -/
theorem unquoteBytes_quoteChar {c : Char} (h : c.toNat < 0x80) (rest : List Char) :
    unquoteBytes (quoteChar c ++ rest) = c.toNat :: unquoteBytes rest := by
  unfold quoteChar
  by_cases hsafe : isSafe c = true
  · rw [if_pos hsafe, List.singleton_append]
    exact unquoteBytes_plain (isSafe_ne_percent hsafe) rest
  · have hbytes : utf8Bytes c = [c.toNat] := if_pos h
    rw [if_neg hsafe, hbytes, List.flatMap_cons, List.flatMap_nil, List.append_nil]
    exact unquoteBytes_percentByte (by omega) rest

theorem unquoteBytes_quote {text : List Char} (h : IsAscii text) : unquoteBytes (quote text) = text.map Char.toNat := by
  induction text with
  | nil => rfl
  | cons c text ih =>
      have hrest := ih fun other hmem => h other (List.mem_cons_of_mem _ hmem)
      unfold quote at hrest ⊢
      rw [List.flatMap_cons, unquoteBytes_quoteChar (h c List.mem_cons_self), hrest, List.map_cons]

theorem isAscii_quote {text : List Char} (h : IsAscii text) : IsAscii (quote text) := by
  intro c hc
  obtain ⟨original, horiginal, hmem⟩ := List.mem_flatMap.mp hc
  have hascii : original.toNat < 0x80 := h original horiginal
  unfold quoteChar at hmem
  by_cases hsafe : isSafe original = true
  · rw [if_pos hsafe] at hmem
    obtain rfl := List.mem_singleton.mp hmem
    exact hascii
  · have hbytes : utf8Bytes original = [original.toNat] := if_pos hascii
    rw [if_neg hsafe, hbytes, List.flatMap_cons, List.flatMap_nil, List.append_nil] at hmem
    simp only [percentByte, List.mem_cons, List.not_mem_nil, or_false] at hmem
    rcases hmem with rfl | rfl | rfl
    · decide
    · exact toNat_upper _ (by omega)
    · exact toNat_upper _ (by omega)

/-- `unquote(quote(text)) == text` for an ASCII text. -/
theorem unquote_quote {text : List Char} (h : IsAscii text) : unquote (quote text) = text := by
  rw [unquote, unquoteRuns_ascii (isAscii_quote h), List.nil_append, unquoteRun, unquoteBytes_quote h, decodeUtf8_ascii h]

theorem unquoteBytes_of_plain {text : List Char} (h : '%' ∉ text) : unquoteBytes text = text.map Char.toNat := by
  induction text with
  | nil => rfl
  | cons c text ih =>
      have hc : c ≠ '%' := fun heq => h (heq ▸ List.mem_cons_self)
      rw [unquoteBytes_plain hc, ih fun hmem => h (List.mem_cons_of_mem _ hmem), List.map_cons]

/-- A text without percent signs is its own decoding. -/
theorem unquote_of_plain {text : List Char} (h : IsAscii text) (hplain : '%' ∉ text) : unquote text = text := by
  rw [unquote, unquoteRuns_ascii h, List.nil_append, unquoteRun, unquoteBytes_of_plain hplain, decodeUtf8_ascii h]

end Python
end VoiceAssistants

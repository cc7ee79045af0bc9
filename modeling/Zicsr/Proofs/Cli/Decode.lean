import Mathlib.Data.List.ReduceOption
import Zicsr.Cli.Program
import Zicsr.Proofs.Assembly.Listing
import Zicsr.Proofs.Cli.Encode

/-
  What is encoded can be decoded.

  A written word ends in its literal, ten characters from which it is read again
  (`isLiteral_numeral`), so neither the word nor its format is lost (`write_inj`).
  A run of the encoder that succeeds prints the words of the instructions that it
  has read (`exists_of_encodeSegments_ok`). Its lines do not begin like switches,
  so the command line takes them as words (`read_decode_encoded`), and the decoder shows
  each with the text of its instruction, in colours (`decodeWords_numerals`).
-/

namespace Zicsr

/-! ## Texts without their colours -/

namespace Text

/-- What is left of a text when all is dropped from an escape to the next `m`; whether
an escape stands before the text. -/
def dropCodes : Bool → Text → Text
  | _, [] => []
  | true, c :: t => dropCodes (c != 'm') t
  | false, c :: t => if c = '\x1b' then dropCodes true t else c :: dropCodes false t

/-- The text without the sequences that switch colours on and off. -/
def uncoloured (t : Text) : Text := dropCodes false t

variable {a : Text}

theorem uncoloured_append (h : '\x1b' ∉ a) (b : Text) : uncoloured (a ++ b) = a ++ uncoloured b := by
  induction a with
  | nil => rfl
  | cons c a ih =>
    obtain ⟨hc, ha⟩ := List.ne_and_not_mem_of_not_mem_cons h
    rw [uncoloured, List.cons_append, dropCodes, if_neg hc.symm, ← uncoloured, ih ha,
      List.cons_append]

theorem dropCodes_append_cons (h : 'm' ∉ a) (b : Text) :
    dropCodes true (a ++ 'm' :: b) = uncoloured b := by
  induction a with
  | nil => rfl
  | cons c a ih =>
    obtain ⟨hc, ha⟩ := List.ne_and_not_mem_of_not_mem_cons h
    have hskip : (c != 'm') = true := bne_iff_ne.mpr hc.symm
    rw [List.cons_append, dropCodes, hskip, ih ha]

theorem uncoloured_paint (r : Role) {t : Text} (h : '\x1b' ∉ t) (b : Text) :
    uncoloured (r.paint t ++ b) = t ++ uncoloured b := by
  have hon : 'm' ∉ "[38;5;".toList ++ Numeral.decimal r.colour := by
    have hdigits : Avoids ['m'] (Numeral.decimal r.colour) :=
      ((Numeral.allDigits_decimal r.colour).mono (by decide)).avoids (by decide)
    rw [List.mem_append, not_or]
    exact ⟨by decide, hdigits 'm' List.mem_cons_self⟩
  have hpaint : r.paint t ++ b =
      '\x1b' :: (("[38;5;".toList ++ Numeral.decimal r.colour) ++
        'm' :: (t ++ '\x1b' :: ("[39".toList ++ 'm' :: b))) := by
    simp [Role.paint, Role.escape]
  rw [hpaint, uncoloured, dropCodes, if_pos rfl, dropCodes_append_cons hon, uncoloured_append h,
    uncoloured, dropCodes, if_pos rfl, dropCodes_append_cons (by decide)]

end Text

/-! ## The literal of a word -/

namespace WordFormat

/-- Whether the text is the literal of the word: `0x` and eight hexadecimal digits, from
which the word is read. -/
structure IsLiteral (word : BitVec 32) (t : Text) : Prop where
  mark : ['0', 'x'] <+: t
  digits : Numeral.AllDigits 16 (t.drop 2)
  length : t.length = 10
  read : Numeral.read t = .ok word.toNat

theorem length_numeral (word : BitVec 32) : (numeral word).length = 10 := by
  have hdigits : (Numeral.hexPadded 8 word.toNat).length = 8 :=
    Numeral.length_hexPadded (by decide) word.isLt
  simp [numeral, Numeral.literalPadded, hdigits]

theorem isLiteral_numeral (word : BitVec 32) : IsLiteral word (numeral word) where
  mark := ⟨_, rfl⟩
  digits := Numeral.allDigits_hexPadded 8 word.toNat
  length := length_numeral word
  read := (Numeral.read_literalPadded_eq_ok_iff 8 word.toNat word.toNat).mpr
    ⟨rfl, Nat.lt_trans word.isLt (by decide)⟩

theorem numeral_inj {w v : BitVec 32} : numeral w = numeral v ↔ w = v := by
  refine ⟨fun h => ?_, congrArg numeral⟩
  have hread := (isLiteral_numeral w).read
  rw [h, (isLiteral_numeral v).read] at hread
  exact BitVec.eq_of_toNat_eq (Except.ok.inj hread).symm

theorem opening_injective {f g : WordFormat} (h : f.opening = g.opening) : f = g := by
  revert h
  cases f <;> cases g <;> decide

/-- Words are written alike only if they are one word in one format. -/
theorem write_inj {f g : WordFormat} {w v : BitVec 32} :
    f.write w = g.write v ↔ f = g ∧ w = v := by
  constructor
  · intro h
    -- The literals are equally long, so they are the ends of the texts.
    obtain ⟨hopening, hnumeral⟩ :=
      List.append_inj' h ((length_numeral w).trans (length_numeral v).symm)
    exact ⟨opening_injective hopening, numeral_inj.mp hnumeral⟩
  · rintro ⟨rfl, rfl⟩
    rfl

end WordFormat

/-! ## A run of the encoder -/

/-- A run over segments that succeeds has read them all, and prints the words of the
instructions on them. -/
theorem exists_of_encodeSegments_ok {format : WordFormat} {segments : List Text}
    (h : (encodeSegments format segments).result = .ok ()) :
    ∃ (parsed : List (Option Instruction)) (words : List (BitVec 32)),
      segments.map readLine = parsed.map .ok ∧
      List.Forall₂ (fun i w => i.encode = .ok w) parsed.reduceOption words ∧
      (encodeSegments format segments).printed = words.map format.write := by
  induction segments with
  | nil => exact ⟨[], [], rfl, .nil, rfl⟩
  | cons segment rest ih =>
    cases hline : assembleLine segment with
    | error e =>
      rw [encodeSegments_cons_of_error format hline] at h
      cases h
    | ok word? =>
      obtain ⟨hprinted, hresult⟩ := encodeSegments_cons_of_ok format hline rest
      obtain ⟨i?, hread, hword⟩ := exists_readLine_of_assembleLine hline
      obtain ⟨parsed, words, hparsed, hwords, hrest⟩ := ih (hresult.symm.trans h)
      refine ⟨i? :: parsed, word?.toList ++ words, ?_, ?_, ?_⟩
      · rw [List.map_cons, hread, hparsed, List.map_cons]
      · have hcons : (i? :: parsed).reduceOption = i?.toList ++ parsed.reduceOption := by
          cases i? <;> simp
        rw [hcons]
        exact List.rel_append hword hwords
      · rw [hprinted, hrest, List.map_append]

/-! ## The command line of the decoder -/

namespace Scan

variable {g : Grammar} {s : Scan}

theorem token_of_head {t : Text} (hliteral : s.literal = false) (hawaiting : s.isAwaiting = false)
    (ht : t.head? ≠ some '-') : s.token g t = s.place g t := by
  unfold token
  rw [hliteral, if_neg (by decide), hawaiting]
  split
  · exact absurd rfl ht
  · exact absurd rfl ht
  · exact absurd rfl ht
  · exact if_neg (by decide)

theorem run_gather {a : Argument} {positionals : List Argument} (ha : a.repeats = true)
    (hg : g.commands = []) {values : List Text} {tokens : List Text}
    (ht : ∀ t ∈ tokens, t.head? ≠ some '-') (found : Found) :
    run g ⟨false, some ⟨a, values, false⟩, found, a :: positionals⟩ tokens =
      .ok (⟨false, some ⟨a, values ++ tokens, false⟩, found, a :: positionals⟩, none) := by
  induction tokens generalizing values with
  | nil => rw [List.append_nil]; rfl
  | cons t tokens ih =>
    obtain ⟨hhead, htail⟩ := List.forall_mem_cons.mp ht
    have htoken : token g ⟨false, some ⟨a, values, false⟩, found, a :: positionals⟩ t =
        .ok ⟨false, some ⟨a, values ++ [t], false⟩, found, a :: positionals⟩ := by
      rw [token_of_head rfl rfl hhead, place]
      simp [ha, pendingAt?, Option.filter]
    rw [run, if_neg (by simp [hg]), htoken, List.append_cons values t tokens]
    exact ih htail

theorem run_start_gather {a : Argument} {positionals : List Argument} (ha : a.repeats = true)
    (hg : g.commands = []) {tokens : List Text} (hne : tokens ≠ [])
    (ht : ∀ t ∈ tokens, t.head? ≠ some '-') (found : Found) :
    run g ⟨false, none, found, a :: positionals⟩ tokens =
      .ok (⟨false, some ⟨a, tokens, false⟩, found, a :: positionals⟩, none) := by
  cases tokens with
  | nil => exact absurd rfl hne
  | cons t tokens =>
    obtain ⟨hhead, htail⟩ := List.forall_mem_cons.mp ht
    have htoken : token g ⟨false, none, found, a :: positionals⟩ t =
        .ok ⟨false, some ⟨a, [t], false⟩, found, a :: positionals⟩ := by
      rw [token_of_head rfl rfl hhead, place]
      simp only [ha, if_true]
      rfl
    rw [run, if_neg (by simp [hg]), htoken]
    exact run_gather ha hg htail found

end Scan

/-- The switch that asks the decoder for aliases. -/
def aliasSwitch (aliases : Bool) : List Text := if aliases then ["--aliases"] else []

/-- What was found on a decoder's command line before the words. -/
def aliasFound (aliases : Bool) : Found := ⟨if aliases then [(.aliases, [])] else []⟩

theorem run_aliasSwitch (aliases : Bool) (words : List Text) :
    let g := Verb.decode.grammar Program.setting.shared
    Scan.run g (.start g) (aliasSwitch aliases ++ words) =
      Scan.run g ⟨false, none, aliasFound aliases, [.many .word]⟩ words := by
  cases aliases <;> rfl

/-- Words that do not begin like switches are taken as the words to decode. -/
theorem Program.read_decode (aliases : Bool) {words : List Text} (hne : words ≠ [])
    (hwords : ∀ t ∈ words, t.head? ≠ some '-') :
    read ("decode".toList :: (aliasSwitch aliases ++ words)) =
      .ok ⟨.standard, none, .decode words aliases⟩ := by
  have hcommand : Scan.run setting.grammar (.start setting.grammar)
      ("decode".toList :: (aliasSwitch aliases ++ words)) =
        .ok (.start setting.grammar, some ("decode".toList, aliasSwitch aliases ++ words)) := rfl
  have hverb : setting.verb? "decode".toList = some .decode := by decide
  have hrun : Scan.run (Verb.decode.grammar setting.shared)
      (.start (Verb.decode.grammar setting.shared)) (aliasSwitch aliases ++ words) =
        .ok (⟨false, some ⟨.many .word, words, false⟩, aliasFound aliases, [.many .word]⟩, none) :=
    (run_aliasSwitch aliases words).trans (Scan.run_start_gather rfl rfl hne hwords _)
  have hrecord : Scan.record ⟨false, none, aliasFound aliases, [.many .word]⟩ (.many .word) words =
      .ok ⟨false, none, (aliasFound aliases).add .word words, [.many .word]⟩ := by
    cases words with
    | nil => exact absurd rfl hne
    | cons t ts => simp [Scan.record, Argument.many]
  have hfinish : Scan.finish (Verb.decode.grammar setting.shared)
      ⟨false, some ⟨.many .word, words, false⟩, aliasFound aliases, [.many .word]⟩ =
        .ok ((aliasFound aliases).add .word words) := by
    simp only [Scan.finish, Scan.settle, hrecord, bind, Except.bind]
    cases aliases <;> rfl
  have hdecode : Verb.decode.command ((aliasFound aliases).add .word words) =
      .decode words aliases := by
    cases aliases <;> simp [Verb.command, aliasFound, Found.add, Found.values, Found.has]
  have hread : setting.read ("decode".toList :: (aliasSwitch aliases ++ words)) =
      .ok (.none, (aliasFound aliases).add .word words, .decode words aliases) := by
    simp only [Setting.read, hcommand, hverb, hrun, hfinish, hdecode, bind, Except.bind]
    rfl
  simp only [read, hread, bind, Except.bind]
  cases aliases <;> rfl

/-! ## A run of the decoder -/

theorem uncoloured_wordShown (aliases : Bool) {i : Instruction} {w : BitVec 32}
    (h : i.encode = .ok w) :
    Text.uncoloured (wordShown aliases w) =
      WordFormat.numeral w ++ ": ".toList ++ i.text aliases := by
  have hnumeral : '\x1b' ∉ WordFormat.numeral w :=
    Instruction.avoids_literalPadded 8 w.toNat '\x1b' (by decide)
  have htext : '\x1b' ∉ i.text aliases := i.avoids_text aliases '\x1b' (by decide)
  have hshown : instructionShown aliases w = Role.instruction.paint (i.text aliases) := by
    rw [instructionShown, Instruction.decode?_of_encode h]
  rw [wordShown, hshown, List.append_assoc, Text.uncoloured_paint _ hnumeral,
    Text.uncoloured_append (by decide), ← List.append_nil (Role.paint _ _),
    Text.uncoloured_paint _ htext, List.append_assoc]
  exact congrArg (fun t => WordFormat.numeral w ++ (": ".toList ++ t)) (List.append_nil _)

theorem map_uncoloured_wordShown (aliases : Bool) {is : List Instruction} {words : List (BitVec 32)}
    (h : List.Forall₂ (fun i w => i.encode = .ok w) is words) :
    (words.map (wordShown aliases)).map Text.uncoloured =
      List.zipWith (fun line i => line ++ ": ".toList ++ i.text aliases)
        (words.map WordFormat.numeral) is := by
  induction h with
  | nil => rfl
  | cons henc _ ih =>
    simp only [List.map_cons, List.zipWith_cons_cons]
    rw [uncoloured_wordShown aliases henc, ih]

theorem decodeWords_cons_of_read (aliases : Bool) {t : Text} {w : BitVec 32}
    (h : Numeral.read t = .ok w.toNat) (rest : List Text) :
    (decodeWords aliases (t :: rest)).printed =
        wordShown aliases w :: (decodeWords aliases rest).printed ∧
      (decodeWords aliases (t :: rest)).result = (decodeWords aliases rest).result := by
  have hread : Numeral.readBelow? UInt32.size t = some w.toNat :=
    Numeral.readBelow?_eq_some_iff.mpr ⟨h, w.isLt⟩
  simp only [decodeWords, hread, BitVec.ofNat_toNat, BitVec.setWidth_eq]
  refine ⟨?_, rfl⟩
  rw [Outcome.printed_after, outputLines_append, outputLines_map_event]
  rfl

theorem decodeWords_numerals (aliases : Bool) (words : List (BitVec 32)) :
    (decodeWords aliases (words.map WordFormat.numeral)).result = .ok () ∧
      (decodeWords aliases (words.map WordFormat.numeral)).printed =
        words.map (wordShown aliases) := by
  induction words with
  | nil => exact ⟨rfl, rfl⟩
  | cons w words ih =>
    obtain ⟨hprinted, hresult⟩ :=
      decodeWords_cons_of_read aliases (WordFormat.isLiteral_numeral w).read
        (words.map WordFormat.numeral)
    rw [List.map_cons, List.map_cons, hprinted, hresult, ih.2]
    exact ⟨ih.1, rfl⟩

/-! ## Both commands -/

theorem exists_of_encode_hex {x : Xlen} {files : FileReader} {source : List Text}
    (h : ((Command.encode source .hex).run x files).result = .ok ()) :
    ∃ (parsed : List (Option Instruction)) (words : List (BitVec 32)),
      (segments source).map readLine = parsed.map .ok ∧
      List.Forall₂ (fun i w => i.encode = .ok w) parsed.reduceOption words ∧
      ((Command.encode source .hex).run x files).printed = words.map WordFormat.numeral :=
  -- In this format nothing stands before the literal.
  exists_of_encodeSegments_ok h

/-- The lines that an encoder prints are taken from a command line as words to decode. -/
theorem Program.read_decode_encoded {x : Xlen} {files : FileReader} {source : List Text}
    (aliases : Bool) (h : ((Command.encode source .hex).run x files).result = .ok ())
    (hne : ((Command.encode source .hex).run x files).printed ≠ []) :
    let encoded := (Command.encode source .hex).run x files
    read ("decode".toList :: (aliasSwitch aliases ++ encoded.printed)) =
      .ok ⟨.standard, none, .decode encoded.printed aliases⟩ := by
  obtain ⟨-, words, -, -, hlines⟩ := exists_of_encode_hex h
  refine read_decode aliases hne ?_
  rw [hlines]
  intro t ht
  obtain ⟨w, -, rfl⟩ := List.mem_map.mp ht
  exact (by decide : some '0' ≠ some '-')

/-- What is encoded in plain numerals can be decoded. The encoder prints a literal of the
word of each instruction that it has read; given these lines as words, with or without
aliases, the decoder succeeds and shows, colours aside, each line with the text of its
instruction. In every format a word ends in its literal, and no two words or formats are
written alike. -/
theorem decode_encode (x : Xlen) (files : FileReader) :
    (∀ source : List Text,
      let encoded := (Command.encode source .hex).run x files
      encoded.result = .ok () →
      ∃ parsed : List (Option Instruction),
        (segments source).map readLine = parsed.map .ok ∧
        List.Forall₂ (fun i line => ∃ w, i.encode = .ok w ∧ WordFormat.IsLiteral w line)
          parsed.reduceOption encoded.printed ∧
        ∀ aliases : Bool,
          let decoded := (Command.decode encoded.printed aliases).run x files
          decoded.result = .ok () ∧
          decoded.printed.map Text.uncoloured =
            List.zipWith (fun line i => line ++ ": ".toList ++ i.text aliases)
              encoded.printed parsed.reduceOption) ∧
    (∀ (f : WordFormat) (w : BitVec 32),
      ∃ literal, WordFormat.IsLiteral w literal ∧ literal <:+ f.write w) ∧
    ∀ (f g : WordFormat) (w v : BitVec 32), f.write w = g.write v ↔ f = g ∧ w = v := by
  refine ⟨?pipeline, fun f w => ⟨_, WordFormat.isLiteral_numeral w, List.suffix_append _ _⟩,
    fun _ _ _ _ => WordFormat.write_inj⟩
  case pipeline =>
    intro source encoded hresult
    obtain ⟨parsed, words, hparsed, hwords, hprinted⟩ := exists_of_encode_hex hresult
    have hlines : encoded.printed = words.map WordFormat.numeral := hprinted
    refine ⟨parsed, hparsed, ?lines, fun aliases => ?decoded⟩
    case lines =>
      rw [hlines, List.forall₂_map_right_iff]
      exact hwords.imp fun i w henc => ⟨w, henc, WordFormat.isLiteral_numeral w⟩
    case decoded =>
      rw [hlines]
      refine ⟨(decodeWords_numerals aliases words).1, ?_⟩
      show (decodeWords aliases (words.map WordFormat.numeral)).printed.map Text.uncoloured = _
      rw [(decodeWords_numerals aliases words).2, map_uncoloured_wordShown aliases hwords]

/-- A source with a comment for a segment, and words with zeros in front, one of which is
shown by an alias. -/
theorem decode_encode_zeros :
    let files : FileReader := fun _ => .error .notText
    let source : List Text := ["ecall; # a;csrrw zero,", "4, zero;CSRR(cycle,t0)"]
    let encoded := (Command.encode source .hex).run .rv32 files
    encoded.result = .ok () ∧
      encoded.printed = (["0x00000073", "0x00401073", "0xc00022f3"] : List Text) ∧
      ((Command.decode encoded.printed true).run .rv32 files).printed.map Text.uncoloured =
        (["0x00000073: ecall", "0x00401073: csrw 0x004, zero", "0xc00022f3: csrr t0, cycle"] :
          List Text) := by
  intro files source encoded
  have hresult : encoded.result = .ok () := by rfl
  have hprinted : encoded.printed =
      (["0x00000073", "0x00401073", "0xc00022f3"] : List Text) := by rfl
  have hread : (segments source).map readLine =
      [some ⟨.system .ecall, none⟩, none, some ⟨.csr ⟨.write, false⟩, some ⟨0, 0, 4⟩⟩,
        some ⟨.csr ⟨.set, false⟩, some ⟨5, 0, 0xC00⟩⟩].map .ok := by rfl
  obtain ⟨parsed, hparsed, -, hdecoded⟩ := (decode_encode .rv32 files).1 source hresult
  obtain rfl := List.map_injective_iff.mpr (fun _ _ => Except.ok.inj) (hread.symm.trans hparsed)
  refine ⟨hresult, hprinted, ?_⟩
  rw [(hdecoded true).2, hprinted]
  rfl

end Zicsr

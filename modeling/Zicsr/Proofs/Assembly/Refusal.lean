import Zicsr.Proofs.Assembly.Grammar
import Zicsr.Proofs.Assembly.Guarded
import Zicsr.Proofs.Assembly.Listing

/-
  What a line is refused for when it is encoded.

  Reading an operand already refuses an immediate that is out of range, and registers
  and CSRs are in range from the start. So an instruction that is read fits its
  operation and its fields (`LineGrammar.fits`), and encoding can only refuse it for a
  read-only register that it writes (`Fits.readOnly_of_encode_error`). What is left of
  the errors of encoding is `EncodeRefusal`.
-/

namespace Zicsr

/-- What a line can be refused for when it is encoded: the source of an immediate
operation is 32 or more, or a read-only register is written. -/
inductive EncodeRefusal (line : Text) : EncodeError → Prop
  | immediate (op : CsrOp) (front : List Text) {name s : Text} {v : Nat}
      (immediate : op.immediate = true)
      (parts : Parts.read? (Parts.code line) = some ⟨.statement, name, front ++ [s]⟩)
      (form : (Text.lower name = op.mnemonic ∧ front.length = 2) ∨
        (Text.lower name = op.shortMnemonic ∧ front.length = 1))
      (value : Numeral.read s = .ok v) (large : 32 ≤ v) :
      EncodeRefusal line (.immediateOutOfRange (min v (2 ^ 32 - 1)))
  | readOnly {a : Nat} (low : 0xC00 ≤ a) (high : a ≤ 0xFFF) :
      EncodeRefusal line (.readOnlyWrite a)

/-! ## Reading operands -/

theorem readImmediate_encode_error {t : Text} {cause : EncodeError}
    (h : readImmediate t = .error (.encode cause)) :
    ∃ v, Numeral.read t = .ok v ∧ 32 ≤ v ∧ cause = .immediateOutOfRange (min v (2 ^ 32 - 1)) := by
  unfold readImmediate at h
  cases hread : Numeral.read t with
  | error e => rw [hread] at h; cases h
  | ok v =>
    simp only [hread] at h
    by_cases hv : 32 ≤ v
    · rw [if_pos hv] at h
      cases h
      exact ⟨v, rfl, hv, rfl⟩
    · rw [if_neg hv] at h
      cases h

namespace Instruction

theorem readOperands_encode_error {op : CsrOp} {d c s : Text} {cause : EncodeError}
    (h : readOperands op d c s = .error (.encode cause)) :
    op.immediate = true ∧
      ∃ v, Numeral.read s = .ok v ∧ 32 ≤ v ∧ cause = .immediateOutOfRange (min v (2 ^ 32 - 1)) := by
  unfold readOperands Register.read Csr.read at h
  cases hd : Register.read? d with
  | none => rw [hd] at h; cases h
  | some rd =>
    cases hc : Csr.read? c with
    | none => rw [hd, hc] at h; cases h
    | some csr =>
      rw [hd, hc] at h
      cases himm : op.immediate with
      | true =>
        simp only [himm, bind, Except.bind, if_true] at h
        cases hs : readImmediate s with
        | ok n => rw [hs] at h; cases h
        | error e =>
          rw [hs] at h
          cases h
          exact ⟨rfl, readImmediate_encode_error hs⟩
      | false =>
        simp only [himm, bind, Except.bind] at h
        cases hs : Register.read? s with
        | none => rw [hs] at h; cases h
        | some r => rw [hs] at h; cases h

/-- What is encoded, if it fits, is refused for a read-only register alone. -/
theorem Fits.readOnly_of_encode_error {i : Instruction} {cause : EncodeError} (h : i.Fits)
    (henc : i.encode = .error cause) : ∃ a, cause = .readOnlyWrite a ∧ 0xC00 ≤ a ∧ a ≤ 0xFFF := by
  cases ht : i.readOnlyTarget? with
  | none =>
    obtain ⟨w, hw⟩ := h.exists_encode ht
    rw [hw] at henc
    cases henc
  | some a =>
    rw [h.encode_error ht] at henc
    cases henc
    cases h with
    | system s => cases ht
    | @csr op o fit =>
      rw [readOnlyTarget?_csr] at ht
      split at ht
      · next hwrite =>
        obtain rfl := Option.some.inj ht
        have hbits : o.csr / 1024 % 4 = 3 := of_decide_eq_true (Bool.and_eq_true_iff.mp hwrite).1
        have hlt : o.csr < 4096 := fit.2.2
        exact ⟨_, rfl, by omega, by omega⟩
      · cases ht

end Instruction

/-! ## Lines that are taken apart -/

/-- The operands of a line are refused for the encoding only if the last one is an
immediate out of range. -/
theorem encodeRefusal_of_instruction {line : Text} {p : Parts} {cause : EncodeError}
    (hread : Parts.read? (Parts.code line) = some p)
    (h : p.instruction = .error (.encode cause)) : EncodeRefusal line cause := by
  obtain ⟨style, n, ops⟩ := p
  obtain ⟨f, hf, hn, hlen, hfill⟩ :=
    Form.exists_form_of_instruction_eq h (by cases style <;> simp [Style.unknown]) (by simp)
  cases style with
  | statement =>
    rcases Form.mem_statements_iff.mp hf with ⟨op, rfl⟩ | ⟨s, rfl⟩ | rfl | ⟨op, rfl⟩
    · obtain ⟨d, c, s, rfl⟩ := List.length_eq_three.mp hlen
      obtain ⟨himm, v, hvalue, hlarge, rfl⟩ := Instruction.readOperands_encode_error hfill
      exact .immediate op [d, c] himm hread (.inl ⟨hn, rfl⟩) hvalue hlarge
    · cases hfill
    · cases (Instruction.readOperands_encode_error hfill).1
    · obtain ⟨c, s, rfl⟩ := List.length_eq_two.mp hlen
      obtain ⟨himm, v, hvalue, hlarge, rfl⟩ := Instruction.readOperands_encode_error hfill
      exact .immediate op [c] himm hread (.inr ⟨hn, rfl⟩) hvalue hlarge
  | call =>
    -- No call takes an immediate.
    rcases Form.mem_calls_iff.mp hf with ⟨a, rfl⟩ | rfl | ⟨a, rfl⟩ | rfl
    · cases (Instruction.readOperands_encode_error hfill).1
    · cases (Instruction.readOperands_encode_error hfill).1
    · cases (Instruction.readOperands_encode_error hfill).1
    · cases hfill

/-! ## Lines -/

theorem encodeRefusal_of_readLine {line : Text} {cause : EncodeError}
    (h : readLine line = .error (.encode cause)) : EncodeRefusal line cause := by
  by_cases hne : Parts.code line = []
  · rw [readLine, if_pos hne] at h
    cases h
  · cases hread : Parts.read? (Parts.code line) with
    | none =>
      rw [readLine, if_neg hne, hread] at h
      cases h
    | some p =>
      rw [readLine_eq hne hread] at h
      cases hi : p.instruction with
      | error e =>
        rw [hi] at h
        cases h
        exact encodeRefusal_of_instruction hread hi
      | ok i =>
        cases henc : i.encode with
        | ok w => simp [hi, Instruction.checked_of_encode henc, bind, Except.bind, Except.map] at h
        | error e =>
          simp only [hi, Instruction.checked_of_encode_error henc, bind, Except.bind, Except.map,
            Except.error.injEq, LineError.encode.injEq] at h
          obtain rfl := h
          -- What is read is denoted by the code, so it fits.
          have hgrammar := (lineGrammar_iff (Parts.trim_code line)).mpr ⟨p, hread, hi⟩
          obtain ⟨a, rfl, hlow, hhigh⟩ := hgrammar.fits.readOnly_of_encode_error henc
          exact .readOnly hlow hhigh

theorem exists_encode_of_readLine {line : Text} {i : Instruction}
    (h : readLine line = .ok (some i)) : ∃ w, i.encode = .ok w := by
  rcases code_of_readLine h with ⟨hnone, -⟩ | ⟨j, w, hj, -, henc⟩
  · cases hnone
  · cases hj
    exact ⟨w, henc⟩

theorem assembleLine_eq_error_iff {line : Text} {e : LineError} :
    assembleLine line = .error e ↔ readLine line = .error e := by
  cases hread : readLine line with
  | error e' => simp [assembleLine, hread, bind, Except.bind]
  | ok i? =>
    cases i? with
    | none => simp [assembleLine, hread, bind, Except.bind, pure, Except.pure]
    | some i =>
      obtain ⟨w, henc⟩ := exists_encode_of_readLine hread
      simp [assembleLine_of_readLine hread henc]

/-- Every line and every source text is read, and nothing stops the reading: all cuts
fall between characters, all operands that are used are there, and all that are packed
fit. A line is never refused for a register or a CSR out of range or for operands of
another operation; it is refused for an immediate only where one is too large, and for
a read-only register only at the address of one. An instruction that is read has a
word, so a line is assembled unless it is refused, and refused for the same cause. -/
theorem readLine_total :
    (∀ line, Guarded.readLine line = .ok (readLine line) ∧
      Guarded.assembleLine line = .ok (assembleLine line)) ∧
    (∀ source, Guarded.assemble source = .ok (assemble source)) ∧
    (∀ line r a op, readLine line ≠ .error (.encode (.registerOutOfRange r)) ∧
      readLine line ≠ .error (.encode (.csrOutOfRange a)) ∧
      readLine line ≠ .error (.encode (.operandMismatch op))) ∧
    (∀ line cause, readLine line = .error (.encode cause) → EncodeRefusal line cause) ∧
    (∀ line i, readLine line = .ok (some i) → ∃ w, i.encode = .ok w) ∧
    ∀ line e, assembleLine line = .error e ↔ readLine line = .error e := by
  refine ⟨fun line => ⟨Guarded.readLine_eq line, Guarded.assembleLine_eq line⟩,
    Guarded.assemble_eq, fun line r a op => ?_, fun _ _ => encodeRefusal_of_readLine,
    fun _ _ => exists_encode_of_readLine, fun _ _ => assembleLine_eq_error_iff⟩
  refine ⟨fun h => ?_, fun h => ?_, fun h => ?_⟩ <;> cases encodeRefusal_of_readLine h

/-- Marks beside a character of several bytes, an immediate beyond 32 bits, a write
of a counter, and a line that is assembled. -/
theorem readLine_total_marks :
    (Guarded.readLine "é(é" = .ok (.error (.openCall "é(é")) ∧
      Guarded.readLine "mret é/#" = .ok (.error (.operandCount "mret" 0 1)) ∧
      Guarded.assemble "é#\nmret//é" = .ok (.error ⟨1, .unknownMnemonic "é"⟩)) ∧
    EncodeRefusal "csrwi mstatus, 0x1_0000_0000" (.immediateOutOfRange (2 ^ 32 - 1)) ∧
    EncodeRefusal "csrw cycle, t0" (.readOnlyWrite 0xC00) ∧
    (∃ w, (Instruction.bare (.system .mret)).encode = .ok w) ∧
    assembleLine "csrw cycle, t0" = .error (.encode (.readOnlyWrite 0xC00)) := by
  obtain ⟨hlines, hsources, -, hrefusal, hencode, hiff⟩ := readLine_total
  refine ⟨⟨?_, ?_, ?_⟩, ?_, ?_, ?_, ?_⟩
  · exact (hlines _).1.trans rfl
  · exact (hlines _).1.trans rfl
  · exact (hsources _).trans rfl
  · exact hrefusal _ _ rfl
  · exact hrefusal _ _ rfl
  · exact hencode "mret // é" _ rfl
  · exact (hiff _ _).mpr rfl

end Zicsr

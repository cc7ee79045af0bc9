import Zicsr.Instruction.Decoder
import Zicsr.Proofs.Instruction.Word

/-
  Encoding and decoding are inverse.

  The standard table holds one pattern for each fixed word and one function code
  for each CSR operation, and no fixed word has such a code. So the operation of
  a word is decided in one way (`find?_standard_eq_some_iff`), and decoding is
  characterised by the word alone (`decode?_eq_some_iff`). Encoding refuses more
  than decoding does: a write of a read-only register has a word and is decoded,
  but it is never encoded.
-/

namespace Zicsr

/-! ## Encoding -/

def Operands.Fit (o : Operands) : Prop := o.rd < 32 ∧ o.source < 32 ∧ o.csr < 4096

theorem CsrOp.funct3_lt (op : CsrOp) : op.funct3 < 8 := by
  rcases op with ⟨_ | _ | _, _ | _⟩ <;> decide

/-- The word that a CSR operation packs its operands into. -/
def CsrOp.pack (op : CsrOp) (o : Operands) : BitVec 32 :=
  Word.pack (.ofNat 32 op.funct3) (.ofNat 32 o.rd) (.ofNat 32 o.source) (.ofNat 32 o.csr)

/-- Operands that fit are encoded unless they write a read-only register. -/
theorem CsrOp.encode_of_fit (op : CsrOp) {o : Operands} (h : o.Fit) :
    op.encode o =
      if isReadOnly o.csr && op.writes o.source then .error (.readOnlyWrite o.csr)
      else .ok (op.pack o) := by
  obtain ⟨hr, hs, hc⟩ := h
  rw [CsrOp.encode, if_neg (by omega), if_neg (by omega), if_neg (by omega)]
  rfl

theorem CsrOp.encode_of_not_fit (op : CsrOp) {o : Operands} (h : ¬ o.Fit) :
    ∃ e, op.encode o = .error e ∧ ∀ a, e ≠ .readOnlyWrite a := by
  unfold CsrOp.encode
  by_cases hr : 32 ≤ o.rd
  · exact ⟨_, if_pos hr, by simp⟩
  rw [if_neg hr]
  by_cases hs : 32 ≤ o.source
  · rw [if_pos hs]
    cases op.immediate
    · exact ⟨_, rfl, by simp⟩
    · exact ⟨_, rfl, by simp⟩
  rw [if_neg hs]
  have hc : 4096 ≤ o.csr := by
    unfold Operands.Fit at h
    omega
  exact ⟨_, if_pos hc, by simp⟩

theorem CsrOp.fit_of_encode {op : CsrOp} {o : Operands} {w : BitVec 32} (h : op.encode o = .ok w) :
    o.Fit ∧ w = op.pack o := by
  by_cases hfit : o.Fit
  · rw [op.encode_of_fit hfit] at h
    split at h
    · cases h
    · exact ⟨hfit, (Except.ok.inj h).symm⟩
  · obtain ⟨e, he, -⟩ := op.encode_of_not_fit hfit
    rw [he] at h
    cases h

theorem isReadOnly_iff (a : Nat) : isReadOnly a = true ↔ a.testBit 11 = true ∧ a.testBit 10 = true := by
  simp only [isReadOnly, Nat.testBit_eq_decide_div_mod_eq, decide_eq_true_eq]
  omega

/-! ## The operation of a word -/

/-- The row of a CSR operation: its function code. -/
def CsrOp.row (op : CsrOp) : Row := ⟨.csr op, op.funct3, none⟩

/-- The row of an operation without operands: the pattern of its word. -/
def SystemOp.row (op : SystemOp) : Row := ⟨.system op, 0, some (.exactly op.word)⟩

namespace Decoder

/-- The function codes of the table are those of the operations. -/
theorem csrRows_eq : csrRows = CsrOp.all.map CsrOp.row := rfl

/-- Each pattern of the table is read as the pattern of one fixed word. -/
theorem systemRows_eq : systemRows = SystemOp.all.map SystemOp.row := by decide

theorem standard_eq : standard = ofRows (CsrOp.all.map CsrOp.row ++ SystemOp.all.map SystemOp.row) := by
  rw [standard, csrRows_eq, systemRows_eq]

theorem standard_patterns :
    standard.patterns = SystemOp.all.map (fun s => (.exactly s.word, .system s)) := by
  rw [standard_eq]
  rfl

theorem standard_dispatch : standard.dispatch = CsrOp.all.map (fun c => (c.funct3, .csr c)) := by
  rw [standard_eq]
  rfl

theorem accepts_exactly (v w : BitVec 32) : (BitPattern.exactly v).accepts w = true ↔ w = v := by
  rw [BitPattern.accepts, BitPattern.exactly, BitVec.and_allOnes, beq_iff_eq]

/-- No fixed word has the function code of a CSR operation. -/
theorem funct3_word_ne (s : SystemOp) (c : CsrOp) : Word.funct3 s.word ≠ c.funct3 := by
  have hs : Word.funct3 s.word = 0 := by cases s <;> decide
  have hc : c.funct3 ≠ 0 := by rcases c with ⟨_ | _ | _, _ | _⟩ <;> decide
  omega

theorem find?_standard_word (s : SystemOp) : standard.find? s.word = some (.system s) := by
  rw [find?, standard_patterns]
  cases s <;> decide

theorem find?_standard_of_funct3 {w : BitVec 32} {c : CsrOp} (h : Word.funct3 w = c.funct3) :
    standard.find? w = some (.csr c) := by
  -- The patterns come first, but they accept fixed words only.
  have hno : standard.patterns.find? (fun row => row.1.accepts w) = none := by
    rw [List.find?_eq_none, standard_patterns]
    intro row hrow
    obtain ⟨s, -, rfl⟩ := List.mem_map.mp hrow
    rw [accepts_exactly]
    intro heq
    subst heq
    exact funct3_word_ne s c h
  rw [find?, hno, h, standard_dispatch]
  rcases c with ⟨_ | _ | _, _ | _⟩ <;> rfl

theorem find?_standard_eq_some_iff (w : BitVec 32) (op : Op) :
    standard.find? w = some op ↔
      (∃ s, op = .system s ∧ w = s.word) ∨ (∃ c, op = .csr c ∧ Word.funct3 w = c.funct3) := by
  constructor
  · intro h
    unfold find? at h
    -- The operation stands in the row that was found, be it a pattern or a function code.
    split at h
    · next row hrow =>
      have hmem := List.mem_of_find?_eq_some hrow
      have haccepts := List.find?_some hrow
      rw [standard_patterns] at hmem
      obtain ⟨s, -, rfl⟩ := List.mem_map.mp hmem
      exact .inl ⟨s, (Option.some.inj h).symm, (accepts_exactly s.word w).mp haccepts⟩
    · obtain ⟨front, back, hsplit, -⟩ := List.lookup_eq_some_iff.mp h
      have hmem : (Word.funct3 w, op) ∈ standard.dispatch := by
        rw [hsplit]
        exact List.mem_append_right _ List.mem_cons_self
      rw [standard_dispatch] at hmem
      obtain ⟨c, -, hc⟩ := List.mem_map.mp hmem
      obtain ⟨hcode, hop⟩ := Prod.mk.inj hc
      exact .inr ⟨c, hop.symm, hcode.symm⟩
  · intro h
    obtain ⟨s, rfl, rfl⟩ | ⟨c, rfl, h⟩ := h
    · exact find?_standard_word s
    · exact find?_standard_of_funct3 h

end Decoder

/-! ## Decoding -/

namespace Instruction

theorem opcode_word (s : SystemOp) : Word.opcode s.word = Word.systemOpcode := by
  cases s <;> decide

/-- A word is decoded as the operation it is the word of, or as the CSR operation
of its function code with the operands in its fields. -/
theorem decode?_eq_some_iff (w : BitVec 32) (i : Instruction) :
    decode? w = some i ↔
      (∃ s : SystemOp, w = s.word ∧ i = ⟨.system s, none⟩) ∨
      (∃ c : CsrOp, Word.opcode w = Word.systemOpcode ∧ Word.funct3 w = c.funct3 ∧
        i = ⟨.csr c, some ⟨Word.rd w, Word.source w, Word.csr w⟩⟩) := by
  unfold decode? Decoder.decode?
  by_cases hop : Word.opcode w = Word.systemOpcode
  · rw [if_neg (by simp [hop]), Option.map_eq_some_iff]
    simp only [Decoder.find?_standard_eq_some_iff]
    constructor
    · intro h
      obtain ⟨op, ⟨s, rfl, rfl⟩ | ⟨c, rfl, hc⟩, rfl⟩ := h
      · exact .inl ⟨s, rfl, rfl⟩
      · exact .inr ⟨c, hop, hc, rfl⟩
    · intro h
      obtain ⟨s, rfl, rfl⟩ | ⟨c, -, hc, rfl⟩ := h
      · exact ⟨_, .inl ⟨s, rfl, rfl⟩, rfl⟩
      · exact ⟨_, .inr ⟨c, rfl, hc⟩, rfl⟩
  · -- Fixed words have the SYSTEM opcode as well, so nothing is decoded here.
    rw [if_pos hop]
    simp only [reduceCtorEq, false_iff, not_or]
    constructor
    · intro h
      obtain ⟨s, rfl, -⟩ := h
      exact hop (opcode_word s)
    · intro h
      obtain ⟨c, h, -⟩ := h
      exact hop h

/-- Operands that fit are read back from the word that they are packed into. -/
theorem decode?_pack (c : CsrOp) {o : Operands} (h : o.Fit) :
    decode? (c.pack o) = some ⟨.csr c, some o⟩ := by
  obtain ⟨hr, hs, hc⟩ := h
  obtain ⟨hop, hf, hrd, hsource, hcsr⟩ := Word.fields_pack c.funct3_lt hr hs hc
  refine (decode?_eq_some_iff _ _).mpr (.inr ⟨c, hop, hf, ?_⟩)
  unfold CsrOp.pack
  rw [hrd, hsource, hcsr]

theorem decode?_of_encode {i : Instruction} {w : BitVec 32} (h : i.encode = .ok w) :
    decode? w = some i := by
  obtain ⟨op, operands⟩ := i
  cases op with
  | system s =>
    cases operands with
    | none => exact (decode?_eq_some_iff _ _).mpr (.inl ⟨s, (Except.ok.inj h).symm, rfl⟩)
    | some o => cases h
  | csr c =>
    cases operands with
    | none => cases h
    | some o =>
      obtain ⟨hfit, rfl⟩ := CsrOp.fit_of_encode h
      exact decode?_pack c hfit

/-- Decoded operands fit, and the operation packs them into the word again. -/
theorem encode_of_decode? {w : BitVec 32} {c : CsrOp} (hop : Word.opcode w = Word.systemOpcode)
    (hf : Word.funct3 w = c.funct3) :
    c.encode ⟨Word.rd w, Word.source w, Word.csr w⟩ =
      if isReadOnly (Word.csr w) && c.writes (Word.source w) then .error (.readOnlyWrite (Word.csr w))
      else .ok w := by
  obtain ⟨-, hr, hs, hc⟩ := Word.fields_lt w
  rw [c.encode_of_fit ⟨hr, hs, hc⟩, CsrOp.pack, ← hf, Word.pack_fields w hop]

theorem funct3_mem_iff (w : BitVec 32) :
    Word.funct3 w ∈ [1, 2, 3, 5, 6, 7] ↔ ∃ c : CsrOp, Word.funct3 w = c.funct3 := by
  constructor
  · intro h
    have hall : ∀ n ∈ [1, 2, 3, 5, 6, 7], ∃ c ∈ CsrOp.all, n = c.funct3 := by decide
    obtain ⟨c, -, hc⟩ := hall _ h
    exact ⟨c, hc⟩
  · intro h
    obtain ⟨c, hc⟩ := h
    rw [hc]
    rcases c with ⟨_ | _ | _, _ | _⟩ <;> decide

theorem decode?_eq_none_iff (w : BitVec 32) :
    decode? w = none ↔
      (∀ s : SystemOp, w ≠ s.word) ∧
      ¬ (Word.opcode w = Word.systemOpcode ∧ Word.funct3 w ∈ [1, 2, 3, 5, 6, 7]) := by
  simp only [Option.eq_none_iff_forall_ne_some, ne_eq, decode?_eq_some_iff, funct3_mem_iff]
  constructor
  · intro h
    refine ⟨fun s hs => h _ (.inl ⟨s, hs, rfl⟩), ?_⟩
    intro hcsr
    obtain ⟨hop, c, hc⟩ := hcsr
    exact h _ (.inr ⟨c, hop, hc, rfl⟩)
  · intro hnone i hi
    obtain ⟨hs, hc⟩ := hnone
    obtain ⟨s, h, -⟩ | ⟨c, hop, hf, -⟩ := hi
    · exact hs s h
    · exact hc ⟨hop, c, hf⟩

theorem toNat_extractLsb (w : BitVec 32) (hi lo : Nat) :
    (w.extractLsb hi lo).toNat = w.toNat / 2 ^ lo % 2 ^ (hi - lo + 1) := by
  rw [BitVec.extractLsb_toNat, Nat.shiftRight_eq_div_pow]

/-- Encoding and decoding are inverse: what is encoded is decoded as it was; what
is decoded is encoded again, or it writes a read-only register and is refused for
that alone; and only words that are neither fixed nor of a CSR operation are not
decoded. -/
theorem encode_decode?_inverse :
    (∀ i w, encode i = .ok w → decode? w = some i) ∧
    (∀ w i, decode? w = some i → i.encode = .ok w ∨
      ∃ o, i.operands = some o ∧ i.encode = .error (.readOnlyWrite o.csr) ∧
        o.csr = (w.extractLsb 31 20).toNat ∧ o.csr.testBit 11 = true ∧ o.csr.testBit 10 = true ∧
        i.op.writes o.source = true) ∧
    (∀ w, decode? w = none ↔
      w ∉ [0x00000073#32, 0x00100073#32, 0x10200073#32, 0x30200073#32, 0x10500073#32] ∧
      ¬ ((w.extractLsb 6 0).toNat = 0x73 ∧ (w.extractLsb 14 12).toNat ∈ [1, 2, 3, 5, 6, 7])) := by
  refine ⟨fun i w => decode?_of_encode, ?encoded, ?undecoded⟩
  case encoded =>
    intro w i h
    rcases (decode?_eq_some_iff w i).mp h with ⟨s, rfl, rfl⟩ | ⟨c, hop, hf, rfl⟩
    · exact .inl rfl
    · have henc := encode_of_decode? hop hf
      cases hw : isReadOnly (Word.csr w) && c.writes (Word.source w) with
      | false => exact .inl (by rw [hw] at henc; exact henc)
      | true =>
        -- The word is one of a write that is never encoded.
        rw [hw] at henc
        obtain ⟨hro, hwrites⟩ := Bool.and_eq_true_iff.mp hw
        obtain ⟨h11, h10⟩ := (isReadOnly_iff _).mp hro
        refine .inr ⟨_, rfl, henc, ?_, h11, h10, hwrites⟩
        rw [toNat_extractLsb]
        exact Word.csr_eq w
  case undecoded =>
    intro w
    have hfixed : w ∉ SystemOp.all.map SystemOp.word ↔ ∀ s : SystemOp, w ≠ s.word := by
      constructor
      · intro h s hs
        subst hs
        exact h (List.mem_map_of_mem (s.mem_all))
      · intro h hm
        obtain ⟨s, -, hs⟩ := List.mem_map.mp hm
        exact h s hs.symm
    rw [show [0x00000073#32, 0x00100073#32, 0x10200073#32, 0x30200073#32, 0x10500073#32] =
      SystemOp.all.map SystemOp.word from rfl]
    rw [decode?_eq_none_iff, hfixed, toNat_extractLsb, toNat_extractLsb, Word.opcode_eq_iff,
      Word.funct3_eq, Nat.pow_zero, Nat.div_one]

end Instruction

end Zicsr

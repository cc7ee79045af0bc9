import Zicsr.Proofs.Assembly.Spelling
import Zicsr.Proofs.Text.Padding

/-
  Texts that are read as operands.

  What is read as a register, a CSR or an immediate is a plain text with blanks
  around it: the names of the tables are plain, and so are digits and the marks
  of a numeral. So an operand that is read may stand in any line
  (`IsRegister.isOperand` and its like). A CSR operation is read from three texts
  exactly if each is read as the operand it stands for
  (`readOperands_eq_ok_iff`).
-/

namespace Zicsr

theorem bind_eq_ok_iff {ε α β : Type} {x : Except ε α} {f : α → Except ε β} {b : β} :
    (x >>= f) = .ok b ↔ ∃ a, x = .ok a ∧ f a = .ok b := by
  cases x <;> simp [bind, Except.bind]

/-! ## Plain texts -/

namespace Text

theorem isOperand_of_plain_trim {t : Text} (h : (trim t).Plain) : Parts.IsOperand t := by
  have hno : ∀ c : Char, isPlain c = false → isBlank c = false → c ∉ t := fun c hplain hblank =>
    (padded_trim t).not_mem hblank (h.not_mem hplain)
  exact ⟨hno ',' (by decide) (by decide), hno '(' (by decide) (by decide),
    Parts.uncommented_of_not_mem (hno '#' (by decide) (by decide)) (hno '/' (by decide) (by decide))⟩

end Text

namespace Numeral

theorem isPlain_of_digitValue {c : Char} {d : Nat} (h : digitValue c = some d) :
    Text.isPlain c = true := by
  have hmarks : ['(', ')', ',', '#', '/'].all (fun m => digitValue m = none) = true := by decide
  have hmark : c ∉ ['(', ')', ',', '#', '/'] := fun hm => by
    rw [of_decide_eq_true (List.all_eq_true.mp hmarks c hm)] at h
    cases h
  -- Digits and letters have numbers from 48 to 122, and no blank has one.
  have hrange : 48 ≤ c.toNat ∧ c.toNat ≤ 122 := by
    have hle : ∀ a b : Char, a ≤ b → a.toNat ≤ b.toNat := fun a b hab => UInt32.le_iff_toNat_le.mp hab
    unfold digitValue at h
    split at h
    · next hc => exact ⟨hle _ _ hc.1, Nat.le_trans (hle _ _ hc.2) (by decide)⟩
    · split at h
      · next hc => exact ⟨Nat.le_trans (by decide) (hle _ _ hc.1), hle _ _ hc.2⟩
      · split at h
        · next hc =>
          exact ⟨Nat.le_trans (by decide) (hle _ _ hc.1), Nat.le_trans (hle _ _ hc.2) (by decide)⟩
        · cases h
  have hblank : Text.isBlank c = false := by
    simp only [Text.isBlank, Bool.or_eq_false_iff, Bool.and_eq_false_iff, decide_eq_false_iff_not,
      beq_eq_false_iff_ne]
    omega
  simp only [Text.isPlain, hblank, hmark, not_false_eq_true, decide_true, Bool.not_false,
    Bool.and_self]

theorem exists_radix_prefix (t : Text) :
    ∃ mark : Text, mark.Plain ∧ t = mark ++ (radixAndDigits t).2 ∧ 0 < (radixAndDigits t).1 := by
  unfold radixAndDigits
  split
  · exact ⟨['0', 'x'], by decide, rfl, Nat.succ_pos _⟩
  · exact ⟨['0', 'X'], by decide, rfl, Nat.succ_pos _⟩
  · exact ⟨['0', 'b'], by decide, rfl, Nat.succ_pos _⟩
  · exact ⟨['0', 'B'], by decide, rfl, Nat.succ_pos _⟩
  · exact ⟨[], by decide, rfl, Nat.succ_pos _⟩

/-- Inside the blanks around it, a numeral is plain. -/
theorem plain_of_read {t : Text} {n : Nat} (h : read t = .ok n) : (Text.trim t).Plain := by
  obtain ⟨mark, hmark, hsplit, hradix⟩ := exists_radix_prefix ((Text.trim t).filter (· ≠ '_'))
  unfold read at h
  split at h
  next radix digits hrd =>
  rw [hrd] at hsplit hradix
  split at h
  · cases h
  · split at h
    · cases h
    · obtain ⟨hdigits, -⟩ := (readDigits_eq_ok_iff hradix (by decide) digits).mp h
      intro c hc
      by_cases hunder : c = '_'
      · subst hunder
        decide
      · -- Every other character is one of the mark or a digit.
        have hm : c ∈ (Text.trim t).filter (· ≠ '_') := List.mem_filter.mpr ⟨hc, by simpa using hunder⟩
        rw [hsplit, List.mem_append] at hm
        rcases hm with hm | hm
        · exact hmark c hm
        · obtain ⟨d, hd⟩ := Option.isSome_iff_exists.mp (hdigits c hm)
          obtain ⟨hvalue, -⟩ := Option.filter_eq_some_iff.mp hd
          exact isPlain_of_digitValue hvalue

end Numeral

/-! ## The operands of a CSR operation -/

/-- Whether the text is read as the register of the number. -/
def IsRegister (t : Text) (n : Nat) : Prop := ∃ r, Register.read? t = some r ∧ r.index = n

/-- Whether the text is read as the CSR at the address. -/
def IsCsr (t : Text) (a : Nat) : Prop := ∃ c, Csr.read? t = some c ∧ c.address = a

/-- Whether the text is read as the source of an operation: a numeral below 32
for an immediate, and else the register of the number. -/
def IsSource (op : CsrOp) (t : Text) (n : Nat) : Prop :=
  if op.immediate then Numeral.read t = .ok n ∧ n < 32 else IsRegister t n

namespace IsRegister

variable {t : Text} {n : Nat}

theorem lt (h : IsRegister t n) : n < 32 := by
  obtain ⟨r, -, rfl⟩ := h
  exact r.index_lt

theorem plain_trim (h : IsRegister t n) : (Text.trim t).Plain := by
  obtain ⟨r, hread, -⟩ := h
  exact Register.plain_spellings r _ (Register.read?_eq_some_iff.mp hread)

theorem isOperand (h : IsRegister t n) : Parts.IsOperand t :=
  Text.isOperand_of_plain_trim h.plain_trim

theorem trim (h : IsRegister t n) : IsRegister (Text.trim t) n := by
  obtain ⟨r, hread, hn⟩ := h
  exact ⟨r, by rw [Register.read?, Text.trim_trim]; exact hread, hn⟩

end IsRegister

theorem isRegister_zero_iff {n : Nat} : IsRegister "zero" n ↔ n = 0 := by
  have hzero : Register.read? "zero" = some ⟨0, by decide⟩ := Register.read?_nameOf 0
  unfold IsRegister
  rw [hzero]
  simp [eq_comm]

namespace IsCsr

variable {t : Text} {a : Nat}

theorem lt (h : IsCsr t a) : a < 4096 := by
  obtain ⟨c, -, rfl⟩ := h
  exact c.address_lt

theorem plain_trim (h : IsCsr t a) : (Text.trim t).Plain := by
  obtain ⟨c, hread, -⟩ := h
  rcases Csr.read?_eq_some_iff.mp hread with hname | hnumeral
  · exact (Csr.alphanumeric_names _ hname).1.plain
  · exact Numeral.plain_of_read hnumeral

theorem isOperand (h : IsCsr t a) : Parts.IsOperand t := Text.isOperand_of_plain_trim h.plain_trim

theorem trim (h : IsCsr t a) : IsCsr (Text.trim t) a := by
  obtain ⟨c, hread, ha⟩ := h
  refine ⟨c, ?_, ha⟩
  rw [Csr.read?, Csr.ofName?, Numeral.readBelow?, Text.trim_trim, Numeral.read_trim]
  exact hread

end IsCsr

namespace IsSource

variable {op : CsrOp} {t : Text} {n : Nat}

theorem lt (h : IsSource op t n) : n < 32 := by
  unfold IsSource at h
  split at h
  · exact h.2
  · exact h.lt

theorem isOperand (h : IsSource op t n) : Parts.IsOperand t := by
  unfold IsSource at h
  split at h
  · exact Text.isOperand_of_plain_trim (Numeral.plain_of_read h.1)
  · exact h.isOperand

theorem trim (h : IsSource op t n) : IsSource op (Text.trim t) n := by
  unfold IsSource at h ⊢
  split at h
  · next himm => rw [if_pos himm, Numeral.read_trim]; exact h
  · next himm => rw [if_neg himm]; exact h.trim

end IsSource

/-! ## Reading them -/

theorem Register.read_eq_ok_iff {t : Text} {r : Register} :
    Register.read t = .ok r ↔ read? t = some r := by
  unfold Register.read
  cases read? t <;> simp

theorem Csr.read_eq_ok_iff {t : Text} {c : Csr} : Csr.read t = .ok c ↔ read? t = some c := by
  unfold Csr.read
  cases read? t <;> simp

theorem readImmediate_eq_ok_iff {t : Text} {n : Nat} :
    readImmediate t = .ok n ↔ Numeral.read t = .ok n ∧ n < 32 := by
  unfold readImmediate
  cases hread : Numeral.read t with
  | error e => simp
  | ok m =>
    by_cases hm : 32 ≤ m
    · simp only [if_pos hm, reduceCtorEq, Except.ok.injEq, false_iff, not_and]
      intro heq
      omega
    · simp only [if_neg hm, Except.ok.injEq]
      constructor
      · intro heq; exact ⟨heq, by omega⟩
      · exact fun h => h.1

namespace Instruction

/-- A CSR operation is read exactly from the texts of its operands. -/
theorem readOperands_eq_ok_iff {op : CsrOp} {d c s : Text} {i : Instruction} :
    readOperands op d c s = .ok i ↔
      ∃ o : Operands, i = ⟨.csr op, some o⟩ ∧
        IsRegister d o.rd ∧ IsCsr c o.csr ∧ IsSource op s o.source := by
  unfold readOperands IsSource
  simp only [bind_eq_ok_iff, Register.read_eq_ok_iff, Csr.read_eq_ok_iff]
  constructor
  · intro h
    obtain ⟨rd, hd, csr, hc, h⟩ := h
    cases himm : op.immediate with
    | true =>
      rw [himm, if_pos rfl] at h
      obtain ⟨n, hn, h⟩ := bind_eq_ok_iff.mp h
      cases h
      exact ⟨_, rfl, ⟨rd, hd, rfl⟩, ⟨csr, hc, rfl⟩, by simpa using readImmediate_eq_ok_iff.mp hn⟩
    | false =>
      rw [himm, if_neg (by decide)] at h
      obtain ⟨source, hs, h⟩ := bind_eq_ok_iff.mp h
      cases h
      exact ⟨_, rfl, ⟨rd, hd, rfl⟩, ⟨csr, hc, rfl⟩,
        by simpa using ⟨source, Register.read_eq_ok_iff.mp hs, rfl⟩⟩
  · intro h
    obtain ⟨o, rfl, ⟨rd, hd, hrd⟩, ⟨csr, hc, hcsr⟩, hs⟩ := h
    refine ⟨rd, hd, csr, hc, ?_⟩
    cases himm : op.immediate with
    | true =>
      rw [himm, if_pos rfl] at hs
      rw [if_pos rfl, readImmediate_eq_ok_iff.mpr hs]
      simp only [bind, Except.bind, pure, Except.pure, withImmediate, hrd, hcsr]
    | false =>
      rw [himm, if_neg (by decide)] at hs
      obtain ⟨source, hsource, hindex⟩ := hs
      rw [if_neg (by decide), Register.read_eq_ok_iff.mpr hsource]
      simp only [bind, Except.bind, pure, Except.pure, withRegister, hrd, hcsr, hindex]

end Instruction

end Zicsr

import Zicsr.Proofs.Assembly.Guarded
import Zicsr.Proofs.Header.Calls

/-
  Packing raw operands.

  Packing adds shifted operands up, whatever they are, and the checked form differs
  only by refusing those that do not fit (`Guarded.pack_eq_ite`). Operands that fit are
  read back from their fields (`extractChecked_pack`). An encoder puts each of its
  operands into one slot, so the word of operands in range is decoded to the
  instruction of the encoder with just these operands (`InRange.decode?_word`), and
  they are known by the word.
-/

namespace Zicsr

theorem Word.extractChecked_pack {f r s c : BitVec 32} (hf : f.toNat < 8) (hr : r.toNat < 32)
    (hs : s.toNat < 32) (hc : c.toNat < 4096) :
    let w := pack f r s c
    Bits.extractChecked w 12 3 = .ok f ∧ Bits.extractChecked w 7 5 = .ok r ∧
      Bits.extractChecked w 15 5 = .ok s ∧ Bits.extractChecked w 20 12 = .ok c := by
  intro w
  obtain ⟨-, hfunct3, hrd, hsource, hcsr⟩ := fields_pack hf hr hs hc
  simp only [BitVec.ofNat_toNat, BitVec.setWidth_eq] at hfunct3 hrd hsource hcsr
  exact ⟨congrArg Except.ok (BitVec.eq_of_toNat_eq hfunct3),
    congrArg Except.ok (BitVec.eq_of_toNat_eq hrd),
    congrArg Except.ok (BitVec.eq_of_toNat_eq hsource),
    congrArg Except.ok (BitVec.eq_of_toNat_eq hcsr)⟩

/-! ## Operands of encoders -/

/-- What the operands of a slot stay below. -/
def Slot.limit : Slot → Nat
  | .rd => 32
  | .csr => 4096
  | .source => 32

theorem Slot.lookup_lt {slots : List Slot} {numbers : List Nat}
    (h : List.Forall₂ (fun slot n => n < slot.limit) slots numbers) (slot : Slot) :
    ((slots.zip numbers).lookup slot).getD 0 < slot.limit := by
  induction h with
  | nil => cases slot <;> decide
  | @cons first n slots numbers hlt _ ih =>
    rw [List.zip_cons_cons, List.lookup_cons]
    cases hslot : slot == first with
    | false => exact ih
    | true =>
      rw [beq_iff_eq.mp hslot]
      exact hlt

/-- Where no slot is filled twice, the slots hold what was given. -/
theorem Slot.map_lookup {α : Type} (missing : α) {slots : List Slot} (hnodup : slots.Nodup)
    {given : List α} (hlen : given.length = slots.length) :
    slots.map (fun slot => ((slots.zip given).lookup slot).getD missing) = given := by
  induction slots generalizing given with
  | nil => exact (List.length_eq_zero_iff.mp hlen).symm
  | cons first slots ih =>
    cases given with
    | nil => simp at hlen
    | cons a given =>
      obtain ⟨hfirst, hrest⟩ := List.nodup_cons.mp hnodup
      have htail :=
        calc slots.map (fun slot => (((first :: slots).zip (a :: given)).lookup slot).getD missing)
            = slots.map (fun slot => ((slots.zip given).lookup slot).getD missing) := by
              apply List.map_congr_left
              intro slot hslot
              -- The first slot is another one, so it is passed over.
              have hne : (slot == first) = false :=
                beq_false_of_ne fun heq => hfirst (heq ▸ hslot)
              rw [List.zip_cons_cons, List.lookup_cons, hne]
          _ = given := ih hrest (Nat.succ.inj hlen)
      rw [List.map_cons, htail, List.zip_cons_cons, List.lookup_cons_self]
      rfl

namespace Form

/-- Whether every operand fits the field of its slot. -/
def InRange (f : Form) (given : List (BitVec 32)) : Prop :=
  List.Forall₂ (fun slot v => v.toNat < slot.limit) f.slots given

theorem toNat_operand (f : Form) (given : List (BitVec 32)) (slot : Slot) :
    (f.operand 0 given slot).toNat = f.operand 0 (given.map BitVec.toNat) slot :=
  (f.operand_map BitVec.toNat 0 given slot).symm

theorem map_ofNat_map_toNat (given : List (BitVec 32)) :
    (given.map BitVec.toNat).map (BitVec.ofNat 32) = given := by
  rw [List.map_map]
  exact (List.map_congr_left fun v _ => by simp).trans (List.map_id given)

theorem numbered_injective {f : Form} (hnodup : f.slots.Nodup) {a b : List Nat}
    (ha : a.length = f.slots.length) (hb : b.length = f.slots.length)
    (h : f.numbered a = f.numbered b) : a = b := by
  obtain ⟨hrd, hsource, hcsr⟩ := Operands.mk.inj h
  have hslot : f.operand 0 a = f.operand 0 b := by
    funext slot
    cases slot with
    | rd => exact hrd
    | csr => exact hcsr
    | source => exact hsource
  calc a = f.slots.map (f.operand 0 a) := (Slot.map_lookup 0 hnodup ha).symm
    _ = f.slots.map (f.operand 0 b) := by rw [hslot]
    _ = b := Slot.map_lookup 0 hnodup hb

namespace InRange

variable {f : Form} {given : List (BitVec 32)}

theorem operand_lt (h : f.InRange given) (slot : Slot) :
    f.operand 0 (given.map BitVec.toNat) slot < slot.limit :=
  Slot.lookup_lt (List.forall₂_map_right_iff.mpr h) slot

theorem fit (h : f.InRange given) : (f.numbered (given.map BitVec.toNat)).Fit :=
  ⟨h.operand_lt .rd, h.operand_lt .source, h.operand_lt .csr⟩

theorem wordChecked_eq (h : f.InRange given) : f.wordChecked given = .ok (f.word given) := by
  have hlt (slot : Slot) : (f.operand 0 given slot).toNat < slot.limit := by
    rw [toNat_operand]
    exact h.operand_lt slot
  have hrd : ¬ 32 ≤ (f.operand 0 given .rd).toNat := Nat.not_le_of_lt (hlt .rd)
  have hsource : ¬ 32 ≤ (f.operand 0 given .source).toNat := Nat.not_le_of_lt (hlt .source)
  have hcsr : ¬ 4096 ≤ (f.operand 0 given .csr).toNat := Nat.not_le_of_lt (hlt .csr)
  unfold wordChecked word
  cases f.op with
  | system op => rfl
  | csr op => simp only [Word.packChecked, if_neg hrd, if_neg hsource, if_neg hcsr]

/-- The word of operands in range is decoded to the form's operation and to them. -/
theorem decode?_word (h : f.InRange given) {op : CsrOp} (hop : f.op = .csr op) :
    Instruction.decode? (f.word given) =
      some ⟨.csr op, some (f.numbered (given.map BitVec.toNat))⟩ := by
  have hword := word_eq_pack hop (given.map BitVec.toNat)
  rw [map_ofNat_map_toNat] at hword
  rw [hword, Instruction.decode?_pack op h.fit]

theorem eq_of_word_eq (h : f.InRange given) {given' : List (BitVec 32)} (h' : f.InRange given')
    {op : CsrOp} (hop : f.op = .csr op) (hnodup : f.slots.Nodup)
    (hword : f.word given = f.word given') : given = given' := by
  have hdecode := h.decode?_word hop
  rw [hword, h'.decode?_word hop] at hdecode
  have hnumbered : f.numbered (given'.map BitVec.toNat) = f.numbered (given.map BitVec.toNat) := by
    injection hdecode with hinstruction
    injection hinstruction with _ hoperands
    exact Option.some.inj hoperands
  have hnumbers := numbered_injective hnodup (by rw [List.length_map]; exact h'.length_eq.symm)
    (by rw [List.length_map]; exact h.length_eq.symm) hnumbered
  calc given = (given.map BitVec.toNat).map (BitVec.ofNat 32) := (map_ofNat_map_toNat given).symm
    _ = (given'.map BitVec.toNat).map (BitVec.ofNat 32) := by rw [hnumbers]
    _ = given' := map_ofNat_map_toNat given'

end InRange

end Form

/-! ## The encoders by name -/

/-- What an encoder is called, the instruction that it makes, and its operands in the
order in which it takes them. -/
structure Signature where
  name : Text
  mnemonic : Text
  slots : List Slot
  deriving DecidableEq, Repr

/-- The encoders: those without a destination, the one without a source, and those
with all operands; first with registers, then with immediates as sources. -/
def encoderSignatures : List Signature :=
  [⟨"csrw", "csrrw", [.source, .csr]⟩, ⟨"csrr", "csrrs", [.csr, .rd]⟩,
   ⟨"csrs", "csrrs", [.source, .csr]⟩, ⟨"csrc", "csrrc", [.source, .csr]⟩,
   ⟨"csrrw", "csrrw", [.source, .csr, .rd]⟩, ⟨"csrrs", "csrrs", [.source, .csr, .rd]⟩,
   ⟨"csrrc", "csrrc", [.source, .csr, .rd]⟩,
   ⟨"csrwi", "csrrwi", [.source, .csr]⟩, ⟨"csrsi", "csrrsi", [.source, .csr]⟩,
   ⟨"csrci", "csrrci", [.source, .csr]⟩,
   ⟨"csrrwi", "csrrwi", [.source, .csr, .rd]⟩, ⟨"csrrsi", "csrrsi", [.source, .csr, .rd]⟩,
   ⟨"csrrci", "csrrci", [.source, .csr, .rd]⟩]

theorem exists_encoder : ∀ signature ∈ encoderSignatures, ∃ f ∈ Form.encoders,
    Form.find? Form.encoders signature.name = some f ∧ f.slots = signature.slots ∧
      f.slots.Nodup ∧
      ∃ op ∈ CsrOp.all, f.op = .csr op ∧ op.mnemonic = signature.mnemonic := by
  decide

/-- An encoder called with operands, and what it hands to packing. -/
structure PackCall where
  name : Text
  given : List (BitVec 32)
  funct3 : BitVec 32
  rd : BitVec 32
  source : BitVec 32
  csr : BitVec 32

/-- The encoders called with a source, an address and a destination, as they take them. -/
def packCalls (rs csr rd : BitVec 32) : List PackCall :=
  [⟨"csrw", [rs, csr], 0b001, 0, rs, csr⟩, ⟨"csrr", [csr, rd], 0b010, rd, 0, csr⟩,
   ⟨"csrs", [rs, csr], 0b010, 0, rs, csr⟩, ⟨"csrc", [rs, csr], 0b011, 0, rs, csr⟩,
   ⟨"csrrw", [rs, csr, rd], 0b001, rd, rs, csr⟩, ⟨"csrrs", [rs, csr, rd], 0b010, rd, rs, csr⟩,
   ⟨"csrrc", [rs, csr, rd], 0b011, rd, rs, csr⟩,
   ⟨"csrrwi", [rs, csr, rd], 0b101, rd, rs, csr⟩, ⟨"csrrsi", [rs, csr, rd], 0b110, rd, rs, csr⟩,
   ⟨"csrrci", [rs, csr, rd], 0b111, rd, rs, csr⟩,
   ⟨"csrwi", [rs, csr], 0b101, 0, rs, csr⟩, ⟨"csrsi", [rs, csr], 0b110, 0, rs, csr⟩,
   ⟨"csrci", [rs, csr], 0b111, 0, rs, csr⟩]

/-- The form of an encoder packs what the encoder hands to packing, whatever the operands. -/
theorem Form.word_eq_packCall {rs csr rd : BitVec 32} {call : PackCall}
    (h : call ∈ packCalls rs csr rd) :
    ∃ f, find? encoders call.name = some f ∧
      f.word call.given = Word.pack call.funct3 call.rd call.source call.csr ∧
      f.wordChecked call.given = Word.packChecked call.funct3 call.rd call.source call.csr := by
  simp only [packCalls, List.mem_cons, List.not_mem_nil, or_false] at h
  rcases h with rfl | rfl | rfl | rfl | rfl | rfl | rfl | rfl | rfl | rfl | rfl | rfl | rfl <;>
    exact ⟨_, rfl, rfl, rfl⟩

/-- Packing is one formula modulo 2³², and its checked form differs only in the faults:
the first operand out of range is reported, and no sum ever is. Operands in range are
cut out of the word again. So an encoder tells them apart, and its word is decoded to
the instruction it is named after, with the operands it was given and zero for those it
does not take, whether or not that may be written. -/
theorem encoders_exact :
    (∀ f r s c : BitVec 32,
      (Word.pack f r s c).toNat =
        (0x73 + 2 ^ 12 * f.toNat + 2 ^ 7 * r.toNat + 2 ^ 15 * s.toNat + 2 ^ 20 * c.toNat) % 2 ^ 32 ∧
      Guarded.pack f r s c =
        if 32 ≤ r.toNat then .error (.pack .rd)
        else if 32 ≤ s.toNat then .error (.pack .source)
        else if 4096 ≤ c.toNat then .error (.pack .csr)
        else .ok (Word.pack f r s c)) ∧
    (∀ f r s c : BitVec 32, f.toNat < 8 → r.toNat < 32 → s.toNat < 32 → c.toNat < 4096 →
      let w := Word.pack f r s c
      Bits.extractChecked w 12 3 = .ok f ∧ Bits.extractChecked w 7 5 = .ok r ∧
        Bits.extractChecked w 15 5 = .ok s ∧ Bits.extractChecked w 20 12 = .ok c) ∧
    (∀ signature ∈ encoderSignatures, ∃ f op,
      Form.find? Form.encoders signature.name = some f ∧ f.slots = signature.slots ∧
      op.mnemonic = signature.mnemonic ∧
      ∀ given, f.InRange given →
        f.wordChecked given = .ok (f.word given) ∧
        Instruction.decode? (f.word given) =
          some ⟨.csr op, some (f.numbered (given.map BitVec.toNat))⟩ ∧
        ∀ given', f.InRange given' → f.word given = f.word given' → given = given') := by
  refine ⟨fun f r s c => ⟨Word.toNat_pack f r s c, Guarded.pack_eq_ite f r s c⟩,
    fun f r s c => Word.extractChecked_pack, ?encoders⟩
  case encoders =>
    intro signature hmem
    obtain ⟨f, -, hfind, hslots, hnodup, op, -, hop, hmnemonic⟩ := exists_encoder signature hmem
    refine ⟨f, op, hfind, hslots, hmnemonic, fun given h => ?_⟩
    exact ⟨h.wordChecked_eq, h.decode?_word hop, fun given' h' => h.eq_of_word_eq h' hop hnodup⟩

/-- A word that no checked instruction has, since it writes the cycle counter, is made
and decoded all the same. -/
theorem encoders_exact_counter :
    (1#32).toNat < 8 ∧ (10#32).toNat < 32 ∧ (31#32).toNat < 32 ∧ (0xC00#32).toNat < 4096 ∧
      Bits.extractChecked 0xc00f9573#32 20 12 = .ok 0xC00#32 ∧
      ∃ f, Form.find? Form.encoders "csrrw" = some f ∧ f.InRange [31#32, 0xC00#32, 10#32] ∧
        f.wordChecked [31#32, 0xC00#32, 10#32] = .ok 0xc00f9573#32 ∧
        Instruction.decode? 0xc00f9573#32 = some ⟨.csr ⟨.write, false⟩, some ⟨10, 31, 0xC00⟩⟩ := by
  obtain ⟨-, hextract, hencoder⟩ := encoders_exact
  have hcsr := (hextract 1 10 31 0xC00 (by decide) (by decide) (by decide) (by decide)).2.2.2
  refine ⟨by decide, by decide, by decide, by decide, hcsr, ?_⟩
  obtain ⟨f, op, hf, -, hop, hgiven⟩ :=
    hencoder ⟨"csrrw", "csrrw", [.source, .csr, .rd]⟩ (by decide)
  have hform : Form.find? Form.encoders "csrrw" = some (.fullCall ⟨.write, false⟩) := by
    decide
  obtain rfl := Option.some.inj (hf.symm.trans hform)
  obtain rfl : op = ⟨.write, false⟩ := by
    have hall : ∀ op ∈ CsrOp.all, op.mnemonic = "csrrw".toList → op = ⟨.write, false⟩ := by decide
    exact hall op op.mem_all hop
  have hrange : (Form.fullCall ⟨.write, false⟩).InRange [31#32, 0xC00#32, 10#32] :=
    .cons (by decide) (.cons (by decide) (.cons (by decide) .nil))
  obtain ⟨hchecked, hdecode, -⟩ := hgiven _ hrange
  exact ⟨_, hf, hrange, hchecked, hdecode⟩

end Zicsr

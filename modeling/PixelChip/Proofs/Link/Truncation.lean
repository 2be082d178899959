import PixelChip.Proofs.Dissect.Account
import PixelChip.Proofs.Link.Resynchronisation
import PixelChip.Proofs.Link.Streaming

/-!
# A stream that is cut off

When a run of written commands is cut at any byte, those that are complete are decoded and nothing
else: a channel skips the beginning of the next command byte by byte, and a stream decoder keeps it
and waits.

That the beginning of an item is waited on follows from the finality of verdicts alone: a parser
that did not wait would give the same answer on the whole item (`isPending_of_beginning`).  For the
same reason a channel finds nothing in the beginning of some bytes that it does not find in all of
them (`decoded_eq_nil_of_beginning`), and no end of a command holds a command.
-/

namespace PixelChip

open Channel

variable {α : Type} [Packet α]

/-! ## Where a run is cut -/

/-- Of some items, as many of the first as `k` bytes can hold. -/
structure LongestFit (items : List α) (k : Nat) (complete : List α) : Prop where
  begins : complete <+: items
  fits : (encodeAll complete).length ≤ k
  longest : ∀ other, other <+: items → (encodeAll other).length ≤ k → other <+: complete

lemma length_encodeAll_cons (item : α) (items : List α) :
    (encodeAll (item :: items)).length =
      (Packet.encode item).length + (encodeAll items).length := by
  rw [encodeAll_cons, List.length_append]

lemma LongestFit.cons {item : α} {items complete : List α} {k : Nat}
    (hitem : (Packet.encode item).length ≤ k)
    (h : LongestFit items (k - (Packet.encode item).length) complete) :
    LongestFit (item :: items) k (item :: complete) := by
  have hfits := h.fits
  refine ⟨(List.prefix_cons_inj item).2 h.begins, ?_, fun other hother hle => ?_⟩
  · rw [length_encodeAll_cons]
    omega
  · obtain _ | ⟨first, other⟩ := other
    · exact List.nil_prefix
    · obtain ⟨rfl, hbehind⟩ := List.cons_prefix_cons.1 hother
      rw [length_encodeAll_cons] at hle
      exact (List.prefix_cons_inj first).2 (h.longest other hbehind (by omega))

lemma LongestFit.nil_of_lt {item : α} {items : List α} {k : Nat}
    (hitem : k < (Packet.encode item).length) : LongestFit (item :: items) k [] := by
  refine ⟨List.nil_prefix, Nat.zero_le k, fun other hother hle => ?_⟩
  obtain _ | ⟨first, other⟩ := other
  · exact List.nil_prefix
  · obtain ⟨rfl, -⟩ := List.cons_prefix_cons.1 hother
    rw [length_encodeAll_cons] at hle
    omega

/-- The bytes are the beginning of what some item is written as, but not all of it. -/
def Beginning (item : α) (bytes : List UInt8) : Prop :=
  bytes <+: Packet.encode item ∧ bytes ≠ Packet.encode item

/-- A cut leaves the items that fit in front of it, and nothing or the beginning of the next. -/
lemma exists_longestFit (items : List α) (k : Nat) :
    ∃ complete left, LongestFit items k complete ∧
      (encodeAll items).take k = encodeAll complete ++ left ∧
      (left = [] ∨ ∃ next ∈ items, Beginning next left) := by
  induction items generalizing k with
  | nil =>
      refine ⟨[], [], ⟨List.nil_prefix, Nat.zero_le k, fun other hother _ => hother⟩, ?_, .inl rfl⟩
      exact List.take_nil
  | cons item items ih =>
      by_cases hitem : (Packet.encode item).length ≤ k
      · obtain ⟨complete, left, hfit, htake, hleft⟩ := ih (k - (Packet.encode item).length)
        refine ⟨item :: complete, left, hfit.cons hitem, ?_, ?_⟩
        · rw [encodeAll_cons, List.take_append, List.take_of_length_le hitem, htake,
            encodeAll_cons, List.append_assoc]
        · obtain hleft | ⟨next, hnext, hbeginning⟩ := hleft
          · exact .inl hleft
          · exact .inr ⟨next, List.mem_cons_of_mem item hnext, hbeginning⟩
      · have hlt : k < (Packet.encode item).length := Nat.lt_of_not_le hitem
        refine ⟨[], (Packet.encode item).take k, .nil_of_lt hlt, ?_, .inr ⟨item,
          List.mem_cons_self, List.take_prefix k _, fun hall => ?_⟩⟩
        · rw [encodeAll_cons, List.take_append_of_le_length (Nat.le_of_lt hlt)]
          rfl
        · have hlength := congrArg List.length hall
          rw [List.length_take] at hlength
          omega

/-! ## The beginning of an item -/

variable [LawfulPacket α]

/-- **The beginning of an item is waited on.** -/
lemma isPending_of_beginning {item : α} {bytes : List UInt8} (hread : ReadsBack item)
    (h : Beginning item bytes) (hbytes : bytes ≠ []) :
    isPending (Packet.parse (α := α) bytes) = true := by
  obtain ⟨⟨rest, hrest⟩, hne⟩ := h
  by_contra hpending
  -- a verdict on the beginning would be the verdict on the whole item
  have hsame := LawfulPacket.parse_append hbytes (eq_false_of_ne_true hpending) rest
  have hitem := hread []
  rw [List.append_nil, ← hrest, hsame] at hitem
  have hle := LawfulPacket.length_le hitem
  have hnil : rest = [] := by
    rw [List.length_append] at hle
    exact List.eq_nil_of_length_eq_zero (by omega)
  rw [hnil, List.append_nil] at hrest
  exact hne hrest

/-- Bytes that hold no item hold none in their beginning. -/
lemma decoded_eq_nil_of_beginning {bytes whole : List UInt8} (h : bytes <+: whole)
    (hnone : decoded (α := α) whole = []) : decoded (α := α) bytes = [] := by
  induction whole using bufferInduction (α := α) generalizing bytes with
  | nil => rw [List.prefix_nil.1 h, decoded_nil]
  | item whole item n hwhole hparse ih =>
      rw [(decoded_of_parse_ok hwhole hparse).1] at hnone
      exact absurd hnone (List.cons_ne_nil item _)
  | skip byte rest reason hparse ih =>
      rw [(decoded_of_parse_error hparse).1] at hnone
      obtain _ | ⟨first, bytes⟩ := bytes
      · exact decoded_nil
      · obtain ⟨rfl, hrest⟩ := List.cons_prefix_cons.1 h
        cases hbytes : Packet.parse (α := α) (first :: bytes) with
        | error reason => rw [(decoded_of_parse_error hbytes).1, ih hrest hnone]
        | ok parsed =>
            obtain ⟨behind, rfl⟩ := hrest
            have hsame := LawfulPacket.parse_append (List.cons_ne_nil first bytes)
              (by rw [hbytes]; rfl) behind
            rw [List.cons_append, hparse, hbytes] at hsame
            exact absurd hsame (by simp)

/-! ## What a channel skips -/

open Dissection

/-- Bytes that hold no item are all skipped. -/
lemma skippedFrom_of_decoded_eq_nil {src : List UInt8} (h : decoded (α := α) src = [])
    (offset : Nat) :
    (skippedFrom α offset src).map (fun skip => (skip.byte, skip.offset)) = src.zipIdx offset := by
  induction src using bufferInduction (α := α) generalizing offset with
  | nil => rfl
  | item src item n hsrc hparse ih =>
      rw [(decoded_of_parse_ok hsrc hparse).1] at h
      exact absurd h (List.cons_ne_nil item _)
  | skip byte rest reason hparse ih =>
      rw [(decoded_of_parse_error hparse).1] at h
      rw [skippedFrom_of_parse_error offset hparse, List.map_cons, ih h, List.zipIdx_cons]

/-- No byte of a written item is skipped. -/
lemma skippedFrom_encodeAll_append {items : List α} (h : ∀ item ∈ items, ReadsBack item)
    (offset : Nat) (behind : List UInt8) :
    skippedFrom α offset (encodeAll items ++ behind) =
      skippedFrom α (offset + (encodeAll items).length) behind := by
  induction items generalizing offset with
  | nil => rfl
  | cons item items ih =>
      have hitem := h item List.mem_cons_self
      rw [encodeAll_cons, List.append_assoc,
        skippedFrom_of_parse_ok offset (by simp [hitem.encode_ne_nil]) (hitem _), List.drop_left,
        ih fun other hother => h other (List.mem_cons_of_mem item hother), List.length_append,
        Nat.add_assoc]

/-! ## What a stream decoder keeps -/

/-- A stream decoder takes written items one after another, and stops where it waits. -/
lemma StreamDecoder.drain_encodeAll_append {items : List α} (h : ∀ item ∈ items, ReadsBack item)
    {left : List UInt8} (hleft : left = [] ∨ isPending (Packet.parse (α := α) left) = true)
    (skipped : Nat) :
    drain (α := α) { skipped, buffer := encodeAll items ++ left } =
      (items, { skipped, buffer := left }) := by
  induction items with
  | nil =>
      by_cases hnil : left = []
      · rw [hnil]
        exact drain_nil skipped
      · exact drain_of_next_none (next_of_isPending hnil (hleft.resolve_left hnil))
  | cons item items ih =>
      have hitem := h item List.mem_cons_self
      have hrest := ih fun other hother => h other (List.mem_cons_of_mem item hother)
      have hnext : next { skipped, buffer := Packet.encode item ++ (encodeAll items ++ left) } =
          (some item, { skipped, buffer := encodeAll items ++ left }) := by
        rw [next_of_parse_ok (by simp [hitem.encode_ne_nil]) (hitem _), List.drop_left]
      rw [encodeAll_cons, List.append_assoc, drain_of_next_some hnext, hrest]

/-! ## Commands -/

namespace Command

/-- The beginning of a command holds no command. -/
lemma decoded_of_beginning {command : Command} (h : command.InWidth) {bytes : List UInt8}
    (hbeginning : Beginning command bytes) : decoded (α := Command) bytes = [] := by
  obtain _ | ⟨first, bytes⟩ := bytes
  · rfl
  · have hpending := isPending_of_beginning (readsBack_of_inWidth h) hbeginning
      (List.cons_ne_nil first bytes)
    cases hparse : parse (first :: bytes) with
    | ok parsed =>
        rw [show Packet.parse (first :: bytes) = .ok parsed from hparse] at hpending
        exact absurd hpending Bool.false_ne_true
    | error reason =>
        obtain ⟨rest, hrest⟩ := hbeginning.1
        have hend : decoded (α := Command) (command.encode.drop 1) = [] :=
          (written_encode command).decoded_drop Nat.one_pos
        have hdrop : bytes <+: command.encode.drop 1 := by
          rw [show command.encode = first :: bytes ++ rest from hrest.symm]
          exact List.prefix_append bytes rest
        rw [(decoded_of_parse_error hparse).1]
        exact decoded_eq_nil_of_beginning hdrop hend

/-- **A run of commands that is cut at any byte is decoded up to the cut.**  The longest run of
commands that fits in front of the cut is decoded, and the bytes between it and the cut are exactly
those that a channel skips, each at its offset, and those that a fresh stream decoder still holds,
which has skipped none. -/
theorem cut_is_never_misread {commands : List Command} (h : ∀ command ∈ commands, command.Checked)
    {k : Nat} (hk : k ≤ (encodeAll commands).length) :
    let cut := (encodeAll commands).take k
    ∃ complete left, LongestFit commands k complete ∧ cut = encodeAll complete ++ left ∧
      left.length = k - (encodeAll complete).length ∧
      (ofBytes cut).items.toList = complete ∧
      (ofBytes (α := Command) cut).skipped.map (fun skip => (skip.byte, skip.offset)) =
        left.zipIdx (encodeAll complete).length ∧
      (StreamDecoder.empty.feed cut).drain = (complete, { skipped := 0, buffer := left }) := by
  intro cut
  have hwidth : ∀ command ∈ commands, command.InWidth := fun command hcommand =>
    (checked_iff_inWidth command).1 (h command hcommand)
  obtain ⟨complete, left, hfit, hcut, hleft⟩ := exists_longestFit commands k
  have hread : ∀ command ∈ complete, ReadsBack command := fun command hcommand =>
    readsBack_of_inWidth (hwidth command (hfit.begins.subset hcommand))
  have hnone : decoded (α := Command) left = [] := by
    obtain rfl | ⟨next, hnext, hbeginning⟩ := hleft
    · rfl
    · exact decoded_of_beginning (hwidth next hnext) hbeginning
  have hwaits : left = [] ∨ isPending (parse left) = true := by
    by_cases hnil : left = []
    · exact .inl hnil
    · obtain ⟨next, hnext, hbeginning⟩ := hleft.resolve_left hnil
      exact .inr (isPending_of_beginning (readsBack_of_inWidth (hwidth next hnext)) hbeginning hnil)
  refine ⟨complete, left, hfit, hcut, ?_, ?_, ?_, ?_⟩
  · have hlength := congrArg List.length hcut
    rw [List.length_take_of_le hk, List.length_append] at hlength
    omega
  · show decoded cut = complete
    rw [show cut = encodeAll complete ++ left from hcut, (decoded_encodeAll_append hread left).1,
      hnone, List.append_nil]
  · show (skippedFrom Command 0 cut).map _ = _
    rw [show cut = encodeAll complete ++ left from hcut, skippedFrom_encodeAll_append hread,
      skippedFrom_of_decoded_eq_nil hnone, Nat.zero_add]
  · show StreamDecoder.drain { skipped := 0, buffer := [] ++ cut } = _
    rw [List.nil_append, show cut = encodeAll complete ++ left from hcut]
    exact StreamDecoder.drain_encodeAll_append hread hwaits 0

/-- A write of six values that is cut behind eight bytes, where a single write would end. -/
theorem cut_is_never_misread_of_six :
    let commands : List Command := [ecr, .write ⟨8, 0x1FF, .six 0x8001 1 2 3 4 5⟩]
    let cut := (encodeAll commands).take 10
    let left : List UInt8 := [0x66, 0x66, 0xA9, 0xD4, 0xD4, 0x6A, 0x6A, 0x6C]
    (∀ command ∈ commands, command.Checked) ∧ 10 ≤ (encodeAll commands).length ∧
      (ofBytes cut).items.toList = [ecr] ∧
      (ofBytes (α := Command) cut).skipped.map (fun skip => (skip.byte, skip.offset)) =
        left.zipIdx 2 ∧
      (StreamDecoder.empty.feed cut).drain = ([ecr], { skipped := 0, buffer := left }) := by
  intro commands cut left
  have hchecked : ∀ command ∈ commands, command.Checked := by
    intro command hcommand
    obtain rfl | hcommand := List.mem_cons.1 hcommand
    · exact .ecr
    · obtain rfl := List.mem_singleton.1 hcommand
      exact .write 8 0x1FF _ rfl
  have hlength : 10 ≤ (encodeAll commands).length := by decide +kernel
  obtain ⟨complete, rest, -, hcut, -, hitems, hskipped, hdrain⟩ :=
    cut_is_never_misread hchecked hlength
  have hcomplete : complete = [ecr] := by
    rw [← hitems]
    decide +kernel
  rw [hcomplete] at hcut hitems hskipped hdrain
  have hrest : rest = left := by
    have hbytes : (encodeAll commands).take 10 = encodeAll [ecr] ++ left := by decide +kernel
    exact List.append_cancel_left (hcut.symm.trans hbytes)
  rw [hrest] at hskipped hdrain
  exact ⟨hchecked, hlength, hitems, hskipped, hdrain⟩

end Command
end PixelChip

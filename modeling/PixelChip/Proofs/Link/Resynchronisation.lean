import PixelChip.Proofs.Command.RoundTrip
import PixelChip.Proofs.Link.Decoding

/-!
# Resynchronisation of the command link

Damaged bytes between two runs of commands do no harm outside themselves: the commands before
them, the commands behind them, and whatever the damaged bytes alone decode to are what the whole
buffer decodes to.

A parse that starts in the damaged bytes and ends behind them is possible in one way only
(`eq_of_parse_across`): the last damaged byte is the doubled byte of the identifier that follows.
Such a parse shifts the alignment by one byte, and `decoded_shifted` says that the shift is
harmless, because it lasts as long as the same identifier is repeated and costs one byte then.
-/

namespace PixelChip

/-- The items with the offset at which each of them starts, when the first starts at `offset`. -/
def placed {α : Type} [Packet α] (offset : Nat) : List α → List (Nat × α)
  | [] => []
  | item :: items => (offset, item) :: placed (offset + (Packet.encode item).length) items

lemma map_snd_placed {α : Type} [Packet α] (offset : Nat) (items : List α) :
    (placed offset items).map Prod.snd = items := by
  induction items generalizing offset with
  | nil => rfl
  | cons item items ih => rw [placed, List.map_cons, ih]

lemma le_of_mem_placed {α : Type} [Packet α] {offset : Nat} {items : List α} {entry : Nat × α}
    (h : entry ∈ placed offset items) : offset ≤ entry.1 := by
  induction items generalizing offset with
  | nil => exact absurd h List.not_mem_nil
  | cons item items ih =>
      rw [placed, List.mem_cons] at h
      obtain rfl | h := h
      · exact Nat.le_refl offset
      · exact Nat.le_trans (Nat.le_add_right offset _) (ih h)

/-- Every item starts at or behind the offset of the first. -/
lemma filter_placed {α : Type} [Packet α] {bound offset : Nat} (h : bound ≤ offset)
    (items : List α) :
    (placed offset items).filter (bound ≤ ·.1) = placed offset items := by
  refine List.filter_eq_self.2 fun entry hentry => ?_
  exact decide_eq_true (Nat.le_trans h (le_of_mem_placed hentry))

namespace Command

open Channel

lemma readsBack_of_inWidth {command : Command} (h : command.InWidth) : ReadsBack command :=
  parse_encode_of_inWidth h

/-! ## Parses across a boundary -/

/-- A form is a form of one command, and no form continues another. -/
lemma Written.unique {bytes bytes' : List UInt8} {command command' : Command}
    (behind behind' : List UInt8) (h : Written bytes command) (h' : Written bytes' command')
    (hsame : bytes ++ behind = bytes' ++ behind') :
    bytes = bytes' ∧ command = command' := by
  have hparse := parse_eq_ok_iff.2 ⟨bytes, behind, rfl, h, rfl⟩
  have hparse' := parse_eq_ok_iff.2 ⟨bytes', behind', rfl, h', rfl⟩
  rw [← hsame, hparse] at hparse'
  obtain ⟨rfl, hlength⟩ := Prod.mk.inj (Except.ok.inj hparse')
  exact ⟨(List.append_inj hsame hlength).1, rfl⟩

/-- A form that starts in front of another form and reaches into it is a doubled byte, and so is
the other. -/
lemma Written.overlap {front inside bytes behind behind' : List UInt8} {command command' : Command}
    (hfront : front ≠ []) (hinside : inside ≠ []) (h : Written (front ++ inside) command)
    (h' : Written bytes command') (hsame : inside ++ behind = bytes ++ behind') :
    ∃ byte, front = [byte] ∧ inside = [byte] ∧ bytes = [byte, byte] := by
  obtain ⟨kind, first, second, payload, hshape, hfirst, hsecond, hpayload⟩ := h.shape
  obtain ⟨kind', first', second', payload', rfl, hfirst', hsecond', -⟩ := h'.shape
  obtain _ | ⟨byte, front⟩ := front
  · exact absurd rfl hfront
  obtain _ | ⟨byte', inside⟩ := inside
  · exact absurd rfl hinside
  obtain ⟨rfl, hbehind⟩ := List.cons.inj hsame
  obtain ⟨rfl, htail⟩ := List.cons.inj hshape
  -- the other form starts with no symbol, so it cannot start in the payload
  have hnone : byte' ∉ payload := by
    intro hmem
    have hsymbol := hpayload byte' hmem
    rw [Kind.isSymbol_of_mem_firsts hfirst'] at hsymbol
    exact Bool.false_ne_true hsymbol
  obtain _ | ⟨byte'', front⟩ := front
  · obtain ⟨rfl, rfl⟩ := List.cons.inj htail
    obtain hsecond | ⟨-, hsymbol⟩ := hsecond
    · obtain ⟨rfl, hfirsts⟩ := Kind.firsts_of_second? hsecond hfirst'
      obtain rfl : byte = byte' := by simpa [hfirsts] using hfirst
      obtain rfl := Kind.eq_of_second? hsecond hsecond'
      -- nor can its second byte continue the payload
      obtain _ | ⟨symbol, inside⟩ := inside
      · have hunique := Written.unique (payload' ++ behind') behind' h h' (by simp)
        exact ⟨_, rfl, rfl, hunique.1.symm⟩
      · obtain ⟨rfl, -⟩ := List.cons.inj hbehind
        exact absurd List.mem_cons_self hnone
    · rw [Kind.isSymbol_of_mem_firsts hfirst'] at hsymbol
      exact absurd hsymbol Bool.false_ne_true
  · obtain ⟨-, rfl⟩ := List.cons.inj htail
    exact absurd (List.mem_append_right front List.mem_cons_self) hnone

/-- Where bytes that parse as no command alone parse as one in front of a command, they are the
doubled byte of its identifier. -/
lemma eq_of_parse_across {garbage behind : List UInt8} {reason : ParseError}
    {next command : Command} {n : Nat} (hnext : next.InWidth) (hgarbage : garbage ≠ [])
    (herror : parse garbage = .error reason)
    (hparse : parse (garbage ++ (next.encode ++ behind)) = .ok (command, n)) :
    ∃ byte, garbage = [byte] ∧ next.encode = [byte, byte] ∧ command = next ∧ n = 2 := by
  obtain ⟨bytes, rest, hsplit, hwritten, rfl⟩ := parse_eq_ok_iff.1 hparse
  have hencode : Written next.encode next := by
    have hform := written_encode next
    rwa [onWire_of_inWidth hnext] at hform
  -- the command ends behind the garbage
  have hacross : ∃ inside, inside ≠ [] ∧ bytes = garbage ++ inside ∧
      inside ++ rest = next.encode ++ behind := by
    have halone : ∀ more, garbage = bytes ++ more → False := by
      intro more hmore
      rw [parse_eq_ok_iff.2 ⟨bytes, more, hmore, hwritten, rfl⟩] at herror
      exact absurd herror (by simp)
    obtain ⟨inside, hbytes, hrest⟩ | ⟨more, hmore, -⟩ := List.append_eq_append_iff.1 hsplit
    · refine ⟨inside, ?_, hbytes, hrest.symm⟩
      rintro rfl
      exact halone [] (by simp [hbytes])
    · exact (halone more hmore).elim
  obtain ⟨inside, hinside, rfl, hrest⟩ := hacross
  obtain ⟨byte, rfl, rfl, hdouble⟩ := Written.overlap hgarbage hinside hwritten hencode hrest
  rw [hdouble] at hencode
  have hunique := Written.unique [] [] hwritten hencode rfl
  exact ⟨byte, rfl, hdouble, hunique.2, rfl⟩

/-- One byte is no command. -/
lemma exists_parse_singleton (byte : UInt8) : ∃ reason, parse [byte] = .error reason := by
  cases hparse : parse [byte] with
  | error reason => exact ⟨reason, rfl⟩
  | ok parsed =>
      obtain ⟨bytes, rest, hsplit, hwritten, -⟩ := parse_eq_ok_iff.1 hparse
      obtain ⟨-, first, second, payload, rfl, -⟩ := hwritten.shape
      exact absurd hsplit (by simp)

/-! ## Decoding behind damage -/

/-- One byte in front of written commands costs that byte and nothing else, even where it shifts
the alignment of the commands. -/
lemma decoded_shifted (byte : UInt8) {commands : List Command}
    (h : ∀ command ∈ commands, command.InWidth) :
    decoded (byte :: encodeAll commands) = commands ∧
      skippedCount Command (byte :: encodeAll commands) = 1 := by
  induction commands with
  | nil =>
      obtain ⟨reason, herror⟩ := exists_parse_singleton byte
      exact decoded_of_parse_error herror
  | cons next commands ih =>
      have hnext := h next List.mem_cons_self
      cases hparse : parse (byte :: encodeAll (next :: commands)) with
      | error reason =>
          have hstep := decoded_of_parse_error (α := Command) hparse
          have hall := decoded_encodeAll fun command hcommand =>
            readsBack_of_inWidth (h command hcommand)
          rw [hall.1, hall.2] at hstep
          exact hstep
      | ok parsed =>
          obtain ⟨command, n⟩ := parsed
          obtain ⟨reason, herror⟩ := exists_parse_singleton byte
          obtain ⟨byte', hbyte, hencode, rfl, rfl⟩ :=
            eq_of_parse_across hnext (by simp) herror hparse
          obtain rfl := List.head_eq_of_cons_eq hbyte
          have hstep := decoded_of_parse_ok (α := Command) (List.cons_ne_nil byte _) hparse
          have hdrop : (byte :: encodeAll (command :: commands)).drop 2 =
              byte :: encodeAll commands := by
            have hcommand : Packet.encode command = [byte, byte] := hencode
            rw [encodeAll_cons, hcommand]
            rfl
          obtain ⟨hitems, hskipped⟩ :=
            ih fun other hother => h other (List.mem_cons_of_mem _ hother)
          rw [hdrop, hitems, hskipped] at hstep
          exact hstep

/-- Commands behind any bytes are decoded as if the bytes stood alone. -/
lemma decoded_append_encodeAll (garbage : List UInt8) {commands : List Command}
    (h : ∀ command ∈ commands, command.InWidth) :
    decoded (garbage ++ encodeAll commands) = decoded garbage ++ commands ∧
      skippedCount Command (garbage ++ encodeAll commands) = skippedCount Command garbage := by
  induction garbage using bufferInduction (α := Command) with
  | nil => exact decoded_encodeAll fun command hcommand => readsBack_of_inWidth (h command hcommand)
  | item src command n hsrc hparse ih =>
      have halone := decoded_of_parse_ok hsrc hparse
      have hstep := decoded_append_of_parse_ok hsrc hparse (encodeAll commands)
      rw [hstep.1, hstep.2, ih.1, ih.2, halone.1, halone.2]
      exact ⟨rfl, rfl⟩
  | skip byte rest reason herror ih =>
      have halone := decoded_of_parse_error herror
      rw [List.cons_append]
      cases hparse : parse (byte :: (rest ++ encodeAll commands)) with
      | error reason' =>
          have hstep := decoded_of_parse_error (α := Command) hparse
          rw [hstep.1, hstep.2, ih.1, ih.2, halone.1, halone.2]
          exact ⟨rfl, rfl⟩
      | ok parsed =>
          obtain ⟨command, n⟩ := parsed
          obtain _ | ⟨next, commands⟩ := commands
          · rw [show encodeAll ([] : List Command) = [] from rfl, List.append_nil] at hparse
            exact absurd (herror.symm.trans hparse) (by simp)
          · obtain ⟨byte', hbyte, -⟩ :=
              eq_of_parse_across (h next List.mem_cons_self) (by simp) herror hparse
            obtain ⟨rfl, rfl⟩ := List.cons.inj hbyte
            have hshifted := decoded_shifted byte h
            rw [halone.1, halone.2]
            exact hshifted

/-! ## Decoding from inside a command -/

/-- No command starts with a symbol. -/
lemma decoded_of_symbols {src : List UInt8} (h : ∀ byte ∈ src, Symbol.isSymbol byte = true) :
    decoded (α := Command) src = [] := by
  induction src with
  | nil => rfl
  | cons byte rest ih =>
      have hbyte := h byte List.mem_cons_self
      cases hparse : parse (byte :: rest) with
      | error reason =>
          rw [(decoded_of_parse_error hparse).1]
          exact ih fun other hother => h other (List.mem_cons_of_mem byte hother)
      | ok parsed =>
          obtain ⟨bytes, behind, hsplit, hwritten, -⟩ := parse_eq_ok_iff.1 hparse
          obtain ⟨kind, first, second, payload, rfl, hfirst, -⟩ := hwritten.shape
          obtain ⟨rfl, -⟩ := List.cons.inj hsplit
          rw [Kind.isSymbol_of_mem_firsts hfirst] at hbyte
          exact absurd hbyte Bool.false_ne_true

/-- The end of a form holds no command. -/
lemma Written.decoded_drop {bytes : List UInt8} {command : Command} (h : Written bytes command)
    {j : Nat} (hj : 0 < j) : decoded (α := Command) (bytes.drop j) = [] := by
  obtain ⟨kind, first, second, payload, rfl, -, hsecond, hpayload⟩ := h.shape
  obtain _ | _ | j := j
  · exact absurd hj (Nat.lt_irrefl 0)
  · show decoded (second :: payload) = []
    cases hparse : parse (second :: payload) with
    | error reason =>
        rw [(decoded_of_parse_error hparse).1]
        exact decoded_of_symbols hpayload
    | ok parsed =>
        obtain ⟨bytes, behind, hsplit, hwritten, -⟩ := parse_eq_ok_iff.1 hparse
        obtain ⟨kind', first', second', payload', rfl, hfirst', hsecond', -⟩ := hwritten.shape
        obtain ⟨rfl, rfl⟩ := List.cons.inj hsplit
        have hfirst := Kind.isSymbol_of_mem_firsts hfirst'
        obtain hsecond | ⟨-, hsecond⟩ := hsecond
        · obtain ⟨rfl, -⟩ := Kind.firsts_of_second? hsecond hfirst'
          obtain rfl := Kind.eq_of_second? hsecond hsecond'
          have hsymbol := hpayload _ List.mem_cons_self
          exact absurd (hfirst.symm.trans hsymbol) Bool.false_ne_true
        · exact absurd (hfirst.symm.trans hsecond) Bool.false_ne_true
  · exact decoded_of_symbols fun byte hbyte => hpayload byte (List.mem_of_mem_drop hbyte)

/-- From any offset on, the commands that start there or later are recovered. -/
lemma decoded_drop_encodeAll {commands : List Command} (h : ∀ command ∈ commands, command.InWidth)
    (offset k : Nat) :
    decoded ((encodeAll commands).drop k) =
      ((placed offset commands).filter (offset + k ≤ ·.1)).map Prod.snd := by
  induction commands generalizing offset k with
  | nil =>
      rw [show encodeAll ([] : List Command) = [] from rfl, List.drop_nil]
      rfl
  | cons command commands ih =>
      have hcommand := h command List.mem_cons_self
      have hcommands : ∀ other ∈ commands, other.InWidth := fun other hother =>
        h other (List.mem_cons_of_mem command hother)
      by_cases hzero : k = 0
      · rw [hzero, filter_placed (by omega), map_snd_placed]
        exact (decoded_encodeAll fun other hother => readsBack_of_inWidth (h other hother)).1
      · have hbehind : encodeAll (command :: commands) = command.encode ++ encodeAll commands := rfl
        rw [hbehind, placed, List.filter_cons_of_neg (by simp only [decide_eq_true_eq]; omega)]
        by_cases hk : k < command.encode.length
        · have hinside := (written_encode command).decoded_drop (Nat.pos_of_ne_zero hzero)
          rw [List.drop_append_of_le_length (Nat.le_of_lt hk),
            (decoded_append_encodeAll _ hcommands).1, hinside, List.nil_append]
          have hbound : offset + k ≤ offset + (Packet.encode command).length :=
            Nat.add_le_add_left (Nat.le_of_lt hk) offset
          rw [filter_placed hbound, map_snd_placed]
        · have hdrop : (command.encode ++ encodeAll commands).drop k =
              (encodeAll commands).drop (k - command.encode.length) := by
            rw [List.drop_append, List.drop_eq_nil_of_le (Nat.le_of_not_lt hk), List.nil_append]
          rw [hdrop, ih hcommands (offset + command.encode.length)]
          have hbound : offset + command.encode.length + (k - command.encode.length) =
              offset + k := by
            omega
          rw [hbound]
          rfl

/-- **Damage between commands stays where it is.**  Whatever bytes come between two runs of valid
commands, the whole decodes to the first run, to what the bytes decode to alone, and to the second
run, and as many bytes are skipped as are skipped of the damaged bytes alone.  No end of a valid
command holds a command, so that from any offset `k` of a run exactly the commands that start at
`k` or later are recovered. -/
theorem resynchronisation {before after : List Command} (garbage : List UInt8)
    (hbefore : ∀ command ∈ before, command.Checked)
    (hafter : ∀ command ∈ after, command.Checked) :
    decoded (encodeAll before ++ garbage ++ encodeAll after) =
        before ++ decoded garbage ++ after ∧
      skippedCount Command (encodeAll before ++ garbage ++ encodeAll after) =
        skippedCount Command garbage ∧
      (∀ command ∈ after, ∀ j, 0 < j → decoded (α := Command) (command.encode.drop j) = []) ∧
      ∀ k, decoded ((encodeAll after).drop k) =
        ((placed 0 after).filter (k ≤ ·.1)).map Prod.snd := by
  have hwidth : ∀ command ∈ after, command.InWidth := fun command hcommand =>
    (checked_iff_inWidth command).1 (hafter command hcommand)
  have hread : ∀ command ∈ before, ReadsBack command := fun command hcommand =>
    readsBack_of_inWidth ((checked_iff_inWidth command).1 (hbefore command hcommand))
  obtain ⟨hitems, hskipped⟩ := decoded_encodeAll_append hread (garbage ++ encodeAll after)
  obtain ⟨hitems', hskipped'⟩ := decoded_append_encodeAll garbage hwidth
  refine ⟨?_, ?_, ?_, ?_⟩
  · rw [List.append_assoc, hitems, hitems', List.append_assoc]
  · rw [List.append_assoc, hskipped, hskipped']
  · intro command _ j hj
    exact (written_encode command).decoded_drop hj
  · intro k
    have hdrop := decoded_drop_encodeAll hwidth 0 k
    rwa [Nat.zero_add] at hdrop

/-- Half an event counter reset in front of two of them. -/
theorem resynchronisation_shifted :
    decoded (encodeAll [pulse ⟨3, 5⟩] ++ [0x5A] ++ encodeAll [ecr, ecr, noop]) =
        [pulse ⟨3, 5⟩, ecr, ecr, noop] ∧
      skippedCount Command (encodeAll [pulse ⟨3, 5⟩] ++ [0x5A] ++ encodeAll [ecr, ecr, noop]) = 1 ∧
      decoded ((encodeAll [ecr, ecr, noop]).drop 1) = [ecr, noop] := by
  have hbefore : ∀ command ∈ [pulse ⟨3, 5⟩], command.Checked := by
    intro command hcommand
    obtain rfl := List.mem_singleton.1 hcommand
    exact .pulse 3 5 rfl
  have hafter : ∀ command ∈ [ecr, ecr, noop], command.Checked := by
    intro command hcommand
    simp only [List.mem_cons, List.not_mem_nil, or_false] at hcommand
    obtain rfl | rfl | rfl := hcommand
    · exact .ecr
    · exact .ecr
    · exact .noop
  obtain ⟨hitems, hskipped, -, hoffset⟩ := resynchronisation [0x5A] hbefore hafter
  exact ⟨hitems, hskipped, hoffset 1⟩

end Command
end PixelChip

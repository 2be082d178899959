import PixelChip.Proofs.Chip.History
import PixelChip.Proofs.Link.Resynchronisation
import PixelChip.Random.Draw

/-!
# Traffic for other chips

All chips on a link see all commands.  The inlet of a chip drops those that carry the ID of another
one, and commands that were encoded are decoded as they were, so that a buffer of encoded commands
adds to the queue those that are not foreign, and leaves no other trace (`receive_encodeAll_eq`).
Along two courses that differ in foreign commands only, wherever these arrive and even if the ID
changes on the way, a chip therefore does the same and ends as the same (`SameTraffic.run_eq`).
-/

namespace PixelChip

/-- The command carries the ID of a single chip, and that is not the given one. -/
def Command.isForeign (id : UInt8) (command : Command) : Bool :=
  command.chipId?.any fun other => other < broadcastId && other != id

/-- The commands that are not for another chip. -/
def Command.own (id : UInt8) (commands : List Command) : List Command :=
  commands.filter fun command => !command.isForeign id

/-- A chip executes exactly the commands that are not foreign to it. -/
lemma Command.addresses_eq (command : Command) (id : UInt8) :
    command.addresses id = !command.isForeign id := by
  unfold addresses isForeign
  cases command.chipId? with
  | none => rfl
  | some other =>
      have hless : (other < broadcastId) ↔ ¬ broadcastId ≤ other := UInt8.not_le.symm
      simp only [Option.any_some, Bool.not_and, hless, decide_not, Bool.not_not, bne]

/-- Of encoded commands, the inlet admits those that it admits one by one. -/
lemma Inlet.admitted_encodeAll (inlet : Inlet) {commands : List Command}
    (h : ∀ command ∈ commands, command.InWidth) :
    inlet.admitted (encodeAll commands) = commands.filter inlet.admits := by
  have hdecoded := (Channel.decoded_encodeAll fun command hcommand =>
    Command.readsBack_of_inWidth (h command hcommand)).1
  show (Channel.decoded (encodeAll commands)).filter inlet.admits = _
  rw [hdecoded]

namespace Chip

variable {G : Type}

/-- Encoded commands reach the queue if they are not foreign, and are counted. -/
lemma receive_encodeAll_eq (chip : Chip G) {commands : List Command}
    (h : ∀ command ∈ commands, command.InWidth) :
    chip.receive (encodeAll commands) =
      ((Command.own chip.id commands).length,
        { chip with queue := chip.queue ++ Command.own chip.id commands }) := by
  have hadmits : chip.inlet.admits = fun command => !command.isForeign chip.id := by
    funext command
    rw [Inlet.admits, Command.addresses_eq]
    exact Bool.and_true _
  unfold receive
  rw [Inlet.admitted_encodeAll _ h, hadmits]
  rfl

variable [Generator G]

/-! ## Runs that differ in foreign traffic -/

/-- The ID of a chip after an operation. -/
def Operation.idAfter (id : UInt8) : Operation → UInt8
  | setId other => other
  | _ => id

lemma Operation.apply_id (chip : Chip G) (operation : Operation) :
    (operation.apply chip).id = operation.idAfter chip.id := by
  cases operation with
  | push command =>
      show (chip.push command).2.id = chip.id
      rw [push_snd]
  | _ => rfl

/-- Two courses of operations, for a chip with the ID given, that are the same but for foreign
commands in what is received.  Which commands are foreign follows the ID when it is set. -/
inductive SameTraffic : UInt8 → List Operation → List Operation → Prop where
  | nil (id : UInt8) : SameTraffic id [] []
  | same {id : UInt8} (operation : Operation) {operations operations' : List Operation}
      (h : SameTraffic (operation.idAfter id) operations operations') :
      SameTraffic id (operation :: operations) (operation :: operations')
  | foreign {id : UInt8} {first second : List Command}
      (hfirst : ∀ command ∈ first, command.InWidth)
      (hsecond : ∀ command ∈ second, command.InWidth)
      (hsame : Command.own id first = Command.own id second)
      {operations operations' : List Operation} (h : SameTraffic id operations operations') :
      SameTraffic id (.receive (encodeAll first) :: operations)
        (.receive (encodeAll second) :: operations')

lemma SameTraffic.refl (id : UInt8) (operations : List Operation) :
    SameTraffic id operations operations := by
  induction operations generalizing id with
  | nil => exact .nil id
  | cons operation operations ih => exact .same operation (ih _)

/-- **Along two courses that differ in foreign commands only**, a chip does the same: what is
collected of it is the same, whatever is observed, and it ends as the same chip. -/
theorem SameTraffic.run_eq {id : UInt8} {operations operations' : List Operation}
    (h : SameTraffic id operations operations') {chip : Chip G} (hid : chip.id = id) :
    chip.run operations' = chip.run operations ∧
      ∀ {α : Type} (observe : Chip G → List α),
        chip.collected observe operations' = chip.collected observe operations := by
  induction h generalizing chip with
  | nil id => exact ⟨rfl, fun _ => rfl⟩
  | same operation h ih =>
      obtain ⟨hrun, hcollected⟩ := ih (by rw [operation.apply_id, hid])
      refine ⟨hrun, fun observe => ?_⟩
      rw [collected, collected, hcollected]
  | @foreign id first second hfirst hsecond hsame operations operations' h ih =>
      subst hid
      have hchip : (Operation.receive (encodeAll second)).apply chip =
          (Operation.receive (encodeAll first)).apply chip := by
        show (chip.receive _).2 = (chip.receive _).2
        rw [receive_encodeAll_eq chip hfirst, receive_encodeAll_eq chip hsecond, hsame]
      have hkeeps : ((Operation.receive (encodeAll first)).apply chip).id = chip.id :=
        Operation.apply_id chip _
      obtain ⟨hrun, hcollected⟩ := ih hkeeps
      refine ⟨?_, fun observe => ?_⟩
      · rw [run_cons, run_cons, hchip, hrun]
      · rw [collected, collected, hchip, hcollected]
        rfl

/-- **Traffic for other chips is invisible.**  Two runs of commands that are the same but for
foreign ones are counted alike when they are handed over, by as many as are not foreign.  Whatever
is done to the chip afterwards, the same frames and bytes are sent along the way, and in the end it
is the same chip: its queue, its frames and bytes, its registers, pixels, thresholds and generator,
the requests that wait, the cursor and all counts.  The generator is any that is deterministic;
without a seed its state holds what the clock shows at each trigger. -/
theorem foreign_traffic_is_invisible (chip : Chip G) {first second : List Command}
    (hfirst : ∀ command ∈ first, command.Checked) (hsecond : ∀ command ∈ second, command.Checked)
    (hsame : Command.own chip.id first = Command.own chip.id second)
    (operations : List Operation) :
    let left := chip.receive (encodeAll first)
    let right := chip.receive (encodeAll second)
    left.1 = (Command.own chip.id first).length ∧ right.1 = left.1 ∧
      left.2.queue = chip.queue ++ Command.own chip.id first ∧
      right.2.emitted operations = left.2.emitted operations ∧
      right.2.sent operations = left.2.sent operations ∧
      right.2.run operations = left.2.run operations := by
  intro left right
  have hwidth : ∀ {commands : List Command}, (∀ command ∈ commands, command.Checked) →
      ∀ command ∈ commands, command.InWidth := fun h command hcommand =>
    (Command.checked_iff_inWidth command).1 (h command hcommand)
  have hleft : left = _ := receive_encodeAll_eq chip (hwidth hfirst)
  have hright : right = _ := receive_encodeAll_eq chip (hwidth hsecond)
  have htraffic : SameTraffic chip.id (.receive (encodeAll first) :: operations)
      (.receive (encodeAll second) :: operations) :=
    .foreign (hwidth hfirst) (hwidth hsecond) hsame (.refl chip.id operations)
  obtain ⟨hrun, hcollected⟩ := htraffic.run_eq (rfl : chip.id = chip.id)
  refine ⟨?_, ?_, ?_, hcollected _, hcollected _, hrun⟩
  · rw [hleft]
  · rw [hleft, hright, hsame]
  · rw [hleft]

/-- A chip with the ID 3 sees a read request and a broadcast pulse among commands for the chips 5
and 0, and only these two. -/
theorem foreign_traffic_is_invisible_to_third :
    let chip : Chip ChaCha := (powerOn 3 .all (ChaCha.ofSeed 0)).run [.setSeed 7, .setInterval 1]
    let read : Command := .read ⟨3, 12⟩
    let pulse : Command := .pulse ⟨9, 1⟩
    let first := [.write ⟨5, 12, .single 1⟩, read, pulse]
    let second := [read, .cal ⟨0, true, 1, 2, false, 3⟩, pulse, .read ⟨5, 7⟩]
    Command.own 3 first = Command.own 3 second ∧
      (chip.receive (encodeAll first)).1 = 2 ∧ (chip.receive (encodeAll second)).1 = 2 ∧
      (chip.receive (encodeAll second)).2.emitted [.process] =
        (chip.receive (encodeAll first)).2.emitted [.process] ∧
      (chip.receive (encodeAll second)).2.emitted [.process] =
        [.register
          { status := 0, first := ⟨12, 300, false⟩, second := ⟨0, 0, true⟩, error := false }] := by
  intro chip read pulse first second
  have hfirst : ∀ command ∈ first, command.Checked := by
    simp only [Command.checked_iff_inWidth]
    decide
  have hsecond : ∀ command ∈ second, command.Checked := by
    simp only [Command.checked_iff_inWidth]
    decide
  have hsame : Command.own 3 first = Command.own 3 second := rfl
  obtain ⟨hcount, hcount', -, hemitted, -⟩ :=
    foreign_traffic_is_invisible chip hfirst hsecond hsame [.process]
  refine ⟨hsame, hcount, hcount'.trans hcount, hemitted, ?_⟩
  decide +kernel

end Chip
end PixelChip

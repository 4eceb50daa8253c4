import NcpHost.Proofs.Host.Move
import NcpHost.Proofs.Link.Pieces

/-! What a call that fails leaves behind. A call that is turned down changes nothing that a
later one depends on. A call that fails on the port has put its command on the queue by
then, and the frame that the port did not take whole has used up a sequence number and a
frame number: nothing is taken back, and the command goes out when the queue moves next. -/
namespace NcpHost.Host

/-- What the calls of the user decide about, and what numbers the next transmission. -/
structure Account where
  queue : List Ezsp.Command
  launchPending : Bool
  nextSequence : UInt8
  waiting : Bool
  mode : Mode
  numbers : Sequence
  deriving DecidableEq, Repr

def account (host : Host) : Account where
  queue := host.queue
  launchPending := host.launchPending
  nextSequence := host.nextSequence
  waiting := host.waiting
  mode := host.mode
  numbers := host.link.endpoint.sequence

namespace Account

/-- A call has put `command` on the queue. -/
def ask (account : Account) (command : Ezsp.Command) (launches : Bool) : Account :=
  { account with
    queue := account.queue ++ [command]
    launchPending := account.launchPending || launches }

/-- The oldest command has taken its numbers, and stays. -/
def spend (account : Account) : Account :=
  match account.queue with
  | [] => account
  | oldest :: later =>
    { account with
      queue := { oldest with sequence := some (oldest.sequence.getD account.nextSequence) } :: later
      nextSequence :=
        if oldest.sequence.isSome then account.nextSequence else account.nextSequence + 1
      numbers := account.numbers.advance }

end Account

/-- The command that a call puts on the queue, and whether its answer launches the
bootloader. -/
def Operation.asked? : Operation → Option (Ezsp.Command × Bool)
  | .submit id parameters => some ({ id, parameters }, false)
  | .switchMode _ =>
    some ({ id := Ezsp.launchBootloader, parameters := [Ezsp.normalMode] }, true)
  | _ => none

variable (host : Host) {error : HostError}

/-- While the host has the port, sending fails on the port alone, with a frame handed to it. -/
theorem sendNext_failed (opened : host.opened = true) (failed : host.sendNext.1 = .error error) :
    (∃ cause, error = .port cause) ∧ host.waiting = false ∧
      host.sendNext.2.account = host.account.spend := by
  rw [sendNext] at failed
  split at failed
  · cases failed
  · next carried =>
    have idle : host.waiting = false :=
      Bool.eq_false_iff.mpr fun inFlight => carried (.inl inFlight)
    split at failed
    · cases failed
    · next command later oldest =>
      dsimp only at failed
      split at failed
      · cases failed
      · next cause link world sent =>
        cases failed
        have numbers : link.endpoint.sequence = host.link.endpoint.sequence.advance := by
          rw [Link.send_eq] at sent
          exact congrArg (fun state => state.2.1.endpoint.sequence) sent.symm
        refine ⟨⟨cause, rfl⟩, idle, ?_⟩
        rw [sendNext, if_neg carried, if_neg (not_not_intro opened)]
        simp only [oldest, sent, account, Account.spend, numbers]

theorem submit_failed {id : UInt8} {parameters : List UInt8} (opened : host.opened = true)
    (failed : (host.submit id parameters).1 = .error error) :
    (∃ cause, error = .port cause) ∧ host.waiting = false ∧
      (host.submit id parameters).2.account =
        (host.account.ask { id, parameters } false).spend := by
  have called : host.submit id parameters = (host.queued { id, parameters }).sendNext := by
    simp [submit, opened, queued]
  rw [called] at failed ⊢
  obtain ⟨cause, idle, spent⟩ := (host.queued { id, parameters }).sendNext_failed opened failed
  refine ⟨cause, idle, ?_⟩
  rw [spent, Account.ask, Bool.or_false]
  rfl

/-- A request for another mode is turned down, or its launch command fails on the port. -/
theorem switchMode_failed {requested : Mode}
    (failed : (host.switchMode requested).1 = .error error) :
    (error = .illegalSwitch host.mode requested ∨ error = .notOpen) ∧
        (host.switchMode requested).2.account = host.account ∨
      (∃ cause, error = .port cause) ∧ host.waiting = false ∧
        (host.switchMode requested).2.account =
          (host.account.ask
            { id := Ezsp.launchBootloader, parameters := [Ezsp.normalMode] } true).spend := by
  rw [switchMode] at failed ⊢
  split at failed
  · cases failed
    exact .inl ⟨.inl rfl, rfl⟩
  · next entry legal =>
    dsimp only
    split at failed
    · next closed =>
      cases failed
      exact .inl ⟨.inr rfl, by rw [if_pos closed]⟩
    · next opened =>
      rw [if_neg opened]
      split at failed
      · next carried =>
        obtain ⟨cause, idle, spent⟩ :=
          host.askingLaunch.submit_failed (Decidable.not_not.mp opened) failed
        rw [if_pos carried]
        refine .inr ⟨cause, idle, spent.trans ?_⟩
        rw [Account.ask, Account.ask, Bool.or_false, Bool.or_true]
        rfl
      · cases failed

theorem error_of_failure? {ε α : Type} {outcome : Except ε α} {error : ε}
    (failed : Link.failure? outcome = some error) : outcome = .error error := by
  cases outcome with
  | ok => cases failed
  | error other =>
    cases failed
    rfl

/-- A call for a command that fails is turned down and leaves the account as it was; or it
fails on the port while no command is in flight, and has put its command on the queue, spent
the numbers of the oldest command and set nothing in flight. -/
theorem account_of_failed_call (operation : Operation) {command : Ezsp.Command}
    {launches : Bool} (asked : operation.asked? = some (command, launches))
    (failed : (host.apply operation).1 = .result (some error)) :
    match error with
    | .notOpen | .illegalSwitch .. => (host.step operation).account = host.account
    | .port _ => host.waiting = false ∧
        (host.step operation).account = (host.account.ask command launches).spend
    | .console _ => False := by
  cases operation with
  | submit id parameters =>
    cases asked
    have refused := error_of_failure? (Answer.result.inj failed)
    cases opened : host.opened with
    | false =>
      have closed : host.submit id parameters = (.error .notOpen, host) := by
        simp [submit, opened]
      rw [closed] at refused
      cases refused
      exact congrArg (fun result => result.2.account) closed
    | true =>
      obtain ⟨⟨cause, rfl⟩, idle, spent⟩ := host.submit_failed opened refused
      exact ⟨idle, spent⟩
  | switchMode requested =>
    cases asked
    have refused := error_of_failure? (Answer.result.inj failed)
    rcases host.switchMode_failed refused with
      ⟨rfl | rfl, same⟩ | ⟨⟨cause, rfl⟩, idle, spent⟩
    · exact same
    · exact same
    · exact ⟨idle, spent⟩
  | openPort | closePort | receive | forceUpgrade | fireLink | fireConsole | poll | port =>
    cases asked

/-- Two calls fail on an unplugged port: the first command, still the oldest, keeps the
sequence number that it took, and a second frame number is used up. -/
theorem account_of_calls_on_unplugged_port :
    let history : List Operation := [.openPort, .receive (Wire.Frame.resetAck .powerOn).wire,
      .port .unplug, .submit 0x05 []]
    let host := Host.run (.ofSettings {} { port := { name := "line" } }) history
    (host.apply (.switchMode .upgrading)).1 = .result (some (.port .disconnected)) ∧
      (host.step (.switchMode .upgrading)).account =
        { queue := [⟨0x05, [], some 0⟩, ⟨Ezsp.launchBootloader, [Ezsp.normalMode], none⟩]
          launchPending := true
          nextSequence := 1
          waiting := false
          mode := .application
          numbers := { expectedAck := 2, nextFrame := 2, ackToSend := 0, connected := true } } := by
  intro history host
  have failed : (host.apply (.switchMode .upgrading)).1 =
      .result (some (.port .disconnected)) := by
    decide +kernel
  obtain ⟨-, spent⟩ := account_of_failed_call host (.switchMode .upgrading) rfl failed
  exact ⟨failed, spent.trans (by decide +kernel)⟩

/-- A call that fails on the port is not undone: its command stays on the queue. -/
theorem failed_call_queues_command :
    ¬ ∀ (history : List Operation) (operation : Operation) (error : HostError),
      let host := Host.run (.ofSettings {} { port := { name := "line" } }) history
      operation.asked?.isSome → (host.apply operation).1 = .result (some error) →
      (host.step operation).account = host.account := by
  intro same
  have account := same [.openPort, .receive (Wire.Frame.resetAck .powerOn).wire, .port .unplug]
    (.submit 0x05 []) (.port .disconnected) rfl (by decide +kernel)
  revert account
  decide +kernel

end NcpHost.Host

import NcpHost.Proofs.Host.Attempts

/-! The quiet timer, and who has the port. A console that gets the port arms the timer, and one
that gives it back, or is closed, disarms it. Opening the port once more takes it from the
console as well, but leaves the timer as it is. -/
namespace NcpHost
namespace Host

open Bootloader

variable {host host' : Host}

/-- The console has the port at the end, or else nothing that bears on its timer has
changed. -/
def Yields (host host' : Host) : Prop :=
  host'.active = .console ∨ host'.active = host.active ∧ host'.opened = host.opened ∧
    host'.console.timer.running = host.console.timer.running

namespace Yields

theorem refl (host : Host) : Yields host host := .inr ⟨rfl, rfl, rfl⟩

theorem trans {last : Host} (first : Yields host host') (second : Yields host' last) :
    Yields host last := by
  rcases second with console | ⟨active, opened, running⟩
  · exact .inl console
  · rw [Yields, active, opened, running]
    exact first

theorem routine (routine : Routine host host') : Yields host host' :=
  .inr ⟨routine.active, routine.opened, congrArg (·.timer.running) routine.console⟩

theorem setMode (host : Host) (mode : Mode) : Yields host (host.setMode mode) := by
  rw [setMode_eq]
  exact refl host

theorem enterBootloader (host : Host) (goal : MenuEntry) :
    Yields host (host.enterBootloader goal) :=
  .inl (active_enterBootloader host goal)

/-! What the link tells. -/

theorem complete (host : Host) (response : Ezsp.Frame) (command : Ezsp.Command)
    (later : List Ezsp.Command) : Yields host (host.complete response command later) := by
  rw [complete_eq]
  split
  · exact enterBootloader _ .upload
  · have answered : Yields host (host.answeredBy response command later) := .inr ⟨rfl, rfl, rfl⟩
    exact answered.trans (routine (Routine.sendNext _).attempt)

theorem handlePayload (host : Host) (payload : List UInt8) :
    Yields host (host.handlePayload payload) := by
  rcases payload_routine_or_completes host payload with
    plain | ⟨-, heard, response, command, later, plain, -, same⟩
  · exact routine plain
  · rw [same]
    exact (routine plain).trans (complete _ _ _ _)

theorem handleConnected (host : Host) (code : Wire.ResetCode) :
    Yields host (host.handleConnected code) := by
  have ready : Yields host (host.ready code) := setMode (host.note (.linkUp code)) .application
  rcases host.handleConnected_cases code with same | same
  · rw [same]
    exact ready.trans (routine (Routine.resend _ _))
  · have noted : Yields host ((host.ready code).note .resumingInterrupted) := ready
    rw [same]
    exact noted.trans (routine (Routine.resend _ _))

theorem handleResetFailed (host : Host) : Yields host host.handleResetFailed := by
  rcases host.handleResetFailed_cases with ⟨-, goal, same⟩ | ⟨-, same⟩
  · rw [same]
    exact enterBootloader _ goal
  · rw [same]
    exact refl host

theorem handleLinkEvent (host : Host) (event : LinkEvent) :
    Yields host (host.handleLinkEvent event) := by
  cases event with
  | nakObserved number =>
    have noted : Yields host (host.note (.nakReceived number)) := refl host
    exact noted.trans (routine (Routine.resend _ _))
  | payload data => exact handlePayload host data
  | connected code => exact handleConnected host code
  | ackTimeout action => exact routine (routine_ackTimeout host action)
  | resetFailed => exact handleResetFailed host
  | ackObserved | ackMismatch | resetReceived => exact refl host

theorem foldl_handleLinkEvent (events : List LinkEvent) (host : Host) :
    Yields host (events.foldl Host.handleLinkEvent host) := by
  induction events generalizing host with
  | nil => exact refl host
  | cons event later ih => exact (handleLinkEvent host event).trans (ih _)

/-! Whole operations. -/

theorem receive (active : host.active = .link) (bytes : List UInt8) :
    Yields host (host.receive bytes) := by
  have read : Yields host (host.read bytes) := by
    rw [read_link active]
    exact refl host
  rw [receive_link active]
  exact read.trans (foldl_handleLinkEvent _ _)

theorem pollLink (host : Host) : Yields host host.pollLink := by
  rcases host.pollLink_cases with ⟨-, same⟩ | ⟨event, -, same⟩
  · rw [same]
    exact refl host
  · rw [same]
    exact handleLinkEvent host.polled event

theorem pollConsole (host : Host) : Yields host host.pollConsole := by
  rcases host.pollConsole_cases with same | ⟨active, -, same | ⟨error, same⟩⟩
  · rw [same]
    exact refl host
  all_goals
    rw [same]
    exact .inl active

theorem switchMode (host : Host) (requested : Mode) :
    Yields host (host.switchMode requested).2 := by
  rcases host.switchMode_cases requested with
    same | ⟨entry, -, same | ⟨-, ⟨-, same⟩ | ⟨-, same⟩⟩⟩
  · rw [same]
    exact refl host
  · rw [same]
    exact refl host
  · have asking : Yields host host.askingLaunch := refl host
    rw [same]
    exact asking.trans (routine (Routine.submit _ _ _))
  · rw [same]
    exact enterBootloader host entry

/-- All but three kinds of operation yield from beginning to end. -/
theorem step (host : Host) (operation : Operation) :
    operation = .openPort ∨ operation = .closePort ∨
      (∃ bytes, operation = .receive bytes ∧ host.active = .console) ∨
      operation ≠ .openPort ∧ Yields host (host.step operation) := by
  cases operation with
  | openPort => exact .inl rfl
  | closePort => exact .inr (.inl rfl)
  | receive bytes =>
    cases active : host.active with
    | link => exact .inr (.inr (.inr ⟨nofun, receive active bytes⟩))
    | console => exact .inr (.inr (.inl ⟨bytes, rfl, rfl⟩))
  | submit id parameters =>
    exact .inr (.inr (.inr ⟨nofun, routine (Routine.submit host id parameters)⟩))
  | switchMode requested => exact .inr (.inr (.inr ⟨nofun, switchMode host requested⟩))
  | poll => exact .inr (.inr (.inr ⟨nofun, (pollLink host).trans (pollConsole _)⟩))
  | forceUpgrade | fireLink | fireConsole | port => exact .inr (.inr (.inr ⟨nofun, refl _⟩))

end Yields

/-! Operations that take the port. -/

/-- The timer does not run once the port is the link's. -/
def Released (host : Host) : Prop :=
  host.active = .link → host.console.timer.running = false

theorem released_of_console (active : host.active = .console) : Released host := by
  intro link
  rw [active] at link
  cases link

/-- A choice arms no timer. -/
theorem running_choose (console : Console) (world : World) (entry : MenuEntry) :
    (console.choose world entry).2.1.timer.running = true → console.timer.running = true := by
  unfold Console.choose
  split
  · split
    · exact id
    · cases entry with
      | upload => exact id
      | run => nofun
  · exact id

theorem Released.tried (released : Released host) (entry : MenuEntry) :
    Released (host.tried entry) := by
  intro link
  have still := released link
  exact Bool.eq_false_iff.mpr fun runs =>
    absurd (running_choose host.console host.world entry runs) (Bool.eq_false_iff.mp still)

theorem Released.leaveBootloader (released : Released host) : Released host.leaveBootloader := by
  rcases host.leaveBootloader_cases with ⟨-, same⟩ | ⟨-, ⟨error, -, same⟩ | ⟨-, same⟩⟩
  · rw [same]
    exact released
  · rw [same]
    exact released.tried .run
  · intro _
    have handed : (host.tried .run).handedBack.console.timer.running = false := rfl
    rw [same]
    rcases attempt_cases .resetAfterLeaving
      ((host.tried .run).handedBack.setMode .application).sendReset with back | ⟨error, back⟩
    all_goals
      rw [back, setMode_eq, sendReset_eq]
      exact handed

theorem Released.startUpload (released : Released host) : Released host.startUpload := by
  rcases host.startUpload_cases with ⟨-, same⟩ | ⟨-, ⟨error, -, same⟩ | ⟨-, same⟩⟩
  · rw [same]
    exact released
  · rw [same]
    exact released.tried .upload
  · rw [same, setMode_eq]
    exact released.tried .upload

theorem Released.handleConsoleEvent (released : Released host) (event : ConsoleEvent) :
    Released (host.handleConsoleEvent event) := by
  cases event with
  | transferReady => exact released
  | promptDetected =>
    have prompted : Released host.prompted := released
    rcases host.prompt_cases with ⟨-, same⟩ | ⟨-, same⟩ | ⟨-, same⟩
    · rw [same]
      exact prompted.leaveBootloader
    · rw [same]
      exact prompted.startUpload
    · rw [same]
      exact prompted

theorem Released.foldl_handleConsoleEvent (events : List ConsoleEvent)
    (released : Released host) : Released (events.foldl Host.handleConsoleEvent host) := by
  induction events generalizing host with
  | nil => exact released
  | cons event later ih => exact ih (released.handleConsoleEvent event)

/-- A console that gives the port back has stopped its timer. -/
theorem released_receive (active : host.active = .console) (bytes : List UInt8) :
    Released (host.receive bytes) := by
  have read : Released (host.read bytes) := by
    refine released_of_console ?_
    rw [read_console active]
    exact active
  rw [receive_console active]
  exact read.foldl_handleConsoleEvent _

/-- Opening the port does not touch the console. -/
theorem openPort_console (host : Host) :
    host.openPort.2.opened = true ∧ host.openPort.2.console = host.console := by
  rw [openPort, sendReset_eq]
  exact ⟨rfl, rfl⟩

/-- How the link comes to have the port after an operation, and what that means to the
timer. -/
theorem step_link_cases {operation : Operation} (link : (host.step operation).active = .link) :
    operation = .openPort ∧ (host.step operation).opened = true ∧
        (host.step operation).console = host.console ∨
      operation = .closePort ∧ (host.step operation).opened = false ∧
        (host.step operation).console.timer.running = false ∨
      operation ≠ .openPort ∧ host.active = .console ∧
        (host.step operation).console.timer.running = false ∨
      operation ≠ .openPort ∧ host.active = .link ∧
        (host.step operation).opened = host.opened ∧
        (host.step operation).console.timer.running = host.console.timer.running := by
  rcases Yields.step host operation with
    rfl | rfl | ⟨bytes, rfl, had⟩ | ⟨other, console | ⟨active, opened, running⟩⟩
  · exact .inl ⟨rfl, host.openPort_console⟩
  · exact .inr (.inl ⟨rfl, rfl, rfl⟩)
  · exact .inr (.inr (.inl ⟨nofun, had, released_receive had bytes link⟩))
  · rw [link] at console
    cases console
  · exact .inr (.inr (.inr ⟨other, active ▸ link, opened, running⟩))

/-! Histories. -/

/-- The port was opened once more while the console had it and the timer ran, and has been
open and the link's ever since. -/
def LeftRunning (start : Host) (history : List Operation) : Prop :=
  ∃ before after, history = before ++ .openPort :: after ∧
    (start.run before).active = .console ∧
    (start.run before).console.timer.running = true ∧
    ∀ front, front <+: after →
      (start.run (before ++ .openPort :: front)).active = .link ∧
        (start.run (before ++ .openPort :: front)).opened = true

variable {start : Host} {history : List Operation} {operation : Operation}

theorem LeftRunning.last (left : LeftRunning start history) :
    (start.run history).active = .link ∧ (start.run history).opened = true := by
  obtain ⟨before, after, rfl, -, -, kept⟩ := left
  exact kept after (List.prefix_refl after)

theorem leftRunning_nil : ¬ LeftRunning start [] := by
  rintro ⟨before, after, split, -⟩
  simp at split

/-- Left running now, or before and the port has stayed. -/
theorem leftRunning_append_iff :
    LeftRunning start (history ++ [operation]) ↔
      ((start.run (history ++ [operation])).active = .link ∧
        (start.run (history ++ [operation])).opened = true) ∧
      (operation = .openPort ∧ (start.run history).active = .console ∧
          (start.run history).console.timer.running = true ∨
        LeftRunning start history) := by
  constructor
  · intro left
    refine ⟨left.last, ?_⟩
    obtain ⟨before, after, split, had, runs, kept⟩ := left
    rcases List.eq_nil_or_concat after with rfl | ⟨more, last, rfl⟩
    · obtain ⟨rfl, same⟩ := List.append_inj' split rfl
      exact .inl ⟨(List.cons.inj same).1, had, runs⟩
    · rw [List.concat_eq_append, ← List.cons_append, ← List.append_assoc] at split
      obtain ⟨rfl, -⟩ := List.append_inj' split rfl
      refine .inr ⟨before, more, rfl, had, runs, fun front initial => kept front ?_⟩
      exact initial.trans (List.concat_eq_append ▸ List.prefix_append more [last])
  · rintro ⟨now, ⟨rfl, had, runs⟩ | ⟨before, after, rfl, had, runs, kept⟩⟩
    · refine ⟨history, [], rfl, had, runs, fun front initial => ?_⟩
      rw [List.prefix_nil.mp initial]
      exact now
    · refine ⟨before, after ++ [operation], by simp, had, runs, fun front initial => ?_⟩
      rcases List.prefix_concat_iff.mp initial with rfl | initial
      · rw [← List.cons_append, ← List.append_assoc]
        exact now
      · exact kept front initial

/-- When the link has the port, the timer runs on if it ran when it was left, and no
operation since has closed the port. -/
theorem running_append_iff (link : (start.run (history ++ [operation])).active = .link)
    (before : (start.run history).console.timer.running = true ↔
      (start.run history).active = .console ∧ (start.run history).console.stage = .flushing ∨
        LeftRunning start history) :
    (start.run (history ++ [operation])).console.timer.running = true ↔
      LeftRunning start (history ++ [operation]) := by
  have stepped : start.run (history ++ [operation]) = (start.run history).step operation :=
    run_append start history [operation]
  rw [leftRunning_append_iff, stepped]
  rw [stepped] at link
  rcases step_link_cases link with
    ⟨rfl, opened, console⟩ | ⟨-, shut, still⟩ | ⟨other, had, still⟩ | ⟨other, had, opened, running⟩
  · rw [console]
    constructor
    · intro runs
      refine ⟨⟨link, opened⟩, ?_⟩
      rcases before.mp runs with ⟨had, -⟩ | left
      · exact .inl ⟨rfl, had, runs⟩
      · exact .inr left
    · rintro ⟨-, ⟨-, -, runs⟩ | left⟩
      · exact runs
      · exact before.mpr (.inr left)
  · refine iff_of_false (Bool.eq_false_iff.mp still) ?_
    rintro ⟨⟨-, opened⟩, -⟩
    exact nomatch shut.symm.trans opened
  · refine iff_of_false (Bool.eq_false_iff.mp still) ?_
    rintro ⟨-, ⟨same, -⟩ | left⟩
    · exact other same
    · exact nomatch had.symm.trans left.last.1
  · rw [running]
    constructor
    · intro runs
      rcases before.mp runs with ⟨console, -⟩ | left
      · exact nomatch had.symm.trans console
      · exact ⟨⟨link, opened.trans left.last.2⟩, .inr left⟩
    · rintro ⟨-, ⟨same, -⟩ | left⟩
      · exact absurd same other
      · exact before.mpr (.inr left)

/-- The timer runs for the flush, or it has been left running. -/
theorem running_run_iff (settings : Settings) (port : Port) (now : Nat)
    (history : List Operation) :
    let start := ofSettings settings { port, now }
    let host := start.run history
    host.console.timer.running = true ↔
      host.active = .console ∧ host.console.stage = .flushing ∨ LeftRunning start history := by
  intro start
  induction history using List.reverseRecOn with
  | nil =>
    refine iff_of_false nofun ?_
    rintro (⟨console, -⟩ | left)
    · cases console
    · exact leftRunning_nil left
  | append_singleton front last ih =>
    intro host
    cases active : host.active with
    | console =>
      obtain ⟨-, goal, late, underway⟩ := engaged_run settings port now (front ++ [last]) active
      rw [underway.quiet]
      refine ⟨fun flushing => .inl ⟨rfl, flushing⟩, ?_⟩
      rintro (⟨-, flushing⟩ | left)
      · exact flushing
      · exact nomatch active.symm.trans left.last.1
    | link =>
      simp only [reduceCtorEq, false_and, false_or]
      exact running_append_iff active ih

/-- Over any history, the quiet timer runs exactly while the console flushes the line it has,
or when the port was opened once more during a flush and has been open and the link's ever
since; either way the port is open. Whatever else gives the console's port to the link stops
the timer, while opening the port once more leaves the console as it was. -/
theorem quiet_timer_left_running (settings : Settings) (port : Port) (now : Nat)
    (history : List Operation) :
    let start := ofSettings settings { port, now }
    let host := start.run history
    (host.console.timer.running = true ↔
      host.active = .console ∧ host.console.stage = .flushing ∨ LeftRunning start history) ∧
    (host.console.timer.running = true → host.opened = true) ∧
    ∀ operation, host.active = .console → (host.step operation).active = .link →
      (operation = .openPort → (host.step operation).console = host.console) ∧
      (operation ≠ .openPort → (host.step operation).console.timer.running = false) := by
  intro start host
  have runs := running_run_iff settings port now history
  refine ⟨runs, fun running => ?_, fun operation had taken => ?_⟩
  · rcases runs.mp running with ⟨active, -⟩ | left
    · exact (engaged_run settings port now history active).1
    · exact left.last.2
  · rcases step_link_cases taken with
      ⟨same, -, console⟩ | ⟨same, -, still⟩ | ⟨other, -, still⟩ | ⟨-, link, -⟩
    · exact ⟨fun _ => console, fun other => absurd same other⟩
    · refine ⟨fun opens => ?_, fun _ => still⟩
      exact nomatch same.symm.trans opens
    · exact ⟨fun opens => absurd opens other, fun _ => still⟩
    · exact nomatch had.symm.trans link

/-- The port is opened once more while the line is flushed. -/
theorem reopened_port_leaves_timer :
    (¬ ∀ history : List Operation,
      let host := (ofSettings {} { port := { name := "line" } }).run history
      host.console.timer.running = true → host.active = .console ∧ host.opened = true) ∧
    ¬ ∀ (history : List Operation) (operation : Operation),
      let host := (ofSettings {} { port := { name := "line" } }).run history
      host.active = .console → (host.step operation).active = .link →
        (host.step operation).console.timer.running = false := by
  let flush : List Operation := [.openPort, .fireLink, .poll]
  constructor
  · intro armed
    exact absurd (armed (flush ++ [.openPort]) (by decide +kernel)).1 (by decide +kernel)
  · intro stopped
    exact absurd (stopped flush .openPort (by decide +kernel) (by decide +kernel))
      (by decide +kernel)

end Host
end NcpHost

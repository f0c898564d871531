import Rpackit.Lifecycle.Launch
import Rpackit.Windows.ListenerTable

/-! # The verdict on a listener

The owner tables are counted, not searched. Whatever rows they have, the counts decide
whether the captured member is the only listener of the port, whether nobody is, or
whether there is a conflict.
-/

namespace Rpackit.Lifecycle

open Rpackit.Windows (AddressFamily JobMemberProcess JobProcess LaunchError ListenerRow exactRows
  ipv4TableRows ipv6TablePorts localhost rowsOnPort)

variable {W : Type}

/-- One IPv4 row is on the port, the loopback listener of the process, and no IPv6 row is. -/
structure SoleListener (ipv4 : List ListenerRow) (ipv6 : List UInt16) (port : UInt16)
    (pid : UInt32) : Prop where
  only : ∃ row, ipv4.filter (fun row => row.port == port) = [row] ∧
    row.address = localhost ∧ row.owningPid = pid ∧ row.listening = true
  noIpv6 : port ∉ ipv6

def UnusedPort (ipv4 : List ListenerRow) (ipv6 : List UInt16) (port : UInt16) : Prop :=
  (∀ row ∈ ipv4, row.port ≠ port) ∧ port ∉ ipv6

/-! ## Counting -/

section Counting

variable {ipv4 : List ListenerRow} {ipv6 : List UInt16} {port : UInt16} {pid : UInt32}

def isLoopbackListener (pid : UInt32) (row : ListenerRow) : Bool :=
  row.address == localhost && row.owningPid == pid && row.listening

theorem isLoopbackListener_iff {row : ListenerRow} :
    isLoopbackListener pid row = true ↔
      row.address = localhost ∧ row.owningPid = pid ∧ row.listening = true := by
  simp [isLoopbackListener, and_assoc]

theorem rowsOnPort_eq :
    rowsOnPort ipv4 port = (ipv4.filter fun row => row.port == port).length := by
  rw [rowsOnPort, List.countP_eq_length_filter]

theorem exactRows_eq :
    exactRows ipv4 port pid =
      (ipv4.filter fun row => row.port == port).countP (isLoopbackListener pid) := by
  rw [List.countP_filter, exactRows]
  congr 1
  funext row
  simp only [isLoopbackListener]
  cases row.port == port
  all_goals simp

/-- The three counts of a member that is the only listener. -/
theorem soleListener_iff :
    SoleListener ipv4 ipv6 port pid ↔
      rowsOnPort ipv4 port = 1 ∧ exactRows ipv4 port pid = 1 ∧
        ipv6.count port = 0 := by
  rw [rowsOnPort_eq, exactRows_eq, List.count_eq_zero]
  constructor
  · intro hsole
    obtain ⟨⟨row, hrow, hlistener⟩, hipv6⟩ := hsole
    rw [hrow, List.countP_singleton, if_pos (isLoopbackListener_iff.mpr hlistener)]
    exact ⟨rfl, rfl, hipv6⟩
  · intro hcounts
    obtain ⟨hone, hexact, hipv6⟩ := hcounts
    obtain ⟨row, hrow⟩ := List.length_eq_one_iff.mp hone
    refine ⟨⟨row, hrow, ?_⟩, hipv6⟩
    rw [hrow, List.countP_singleton] at hexact
    by_contra hother
    rw [← isLoopbackListener_iff] at hother
    rw [if_neg hother] at hexact
    cases hexact

theorem unusedPort_iff :
    UnusedPort ipv4 ipv6 port ↔ rowsOnPort ipv4 port = 0 ∧ ipv6.count port = 0 := by
  rw [UnusedPort, rowsOnPort, List.countP_eq_zero, List.count_eq_zero]
  simp only [beq_iff_eq, ne_eq]

theorem exactRows_le : exactRows ipv4 port pid ≤ rowsOnPort ipv4 port := by
  rw [rowsOnPort_eq, exactRows_eq]
  exact List.countP_le_length

/-- The conflict that the source tests for: neither the only listener nor nobody. -/
theorem conflict_iff :
    (rowsOnPort ipv4 port ≠ exactRows ipv4 port pid ∨
        exactRows ipv4 port pid > 1 ∨ ipv6.count port ≠ 0) ↔
      ¬SoleListener ipv4 ipv6 port pid ∧ ¬UnusedPort ipv4 ipv6 port := by
  rw [soleListener_iff, unusedPort_iff]
  have hle : exactRows ipv4 port pid ≤ rowsOnPort ipv4 port := exactRows_le
  omega

end Counting

/-! ## The calls -/

section Calls

variable {world : World W} {handle job : Nat} {machine stop : Machine W} {next : W}

theorem askNative_eq_ok_iff {α : Type} {call : W → Except LaunchError α × W} {a : α} :
    askNative call machine = (.ok a, stop) ↔
      ∃ next, call machine.world = (.ok a, next) ∧ stop = { machine with world := next } := by
  have hrun : askNative call machine =
      ((call machine.world).1, { machine with world := (call machine.world).2 }) := rfl
  rw [hrun, Prod.mk.injEq]
  constructor
  · intro hanswer
    exact ⟨(call machine.world).2, Prod.ext hanswer.1 rfl, hanswer.2.symm⟩
  · intro hanswer
    obtain ⟨next, hcall, rfl⟩ := hanswer
    rw [hcall]
    exact ⟨rfl, rfl⟩

theorem readListenerTable_eq_ok_iff {α : Type} {family : AddressFamily}
    {rows : List UInt64 → Except LaunchError α} {a : α} :
    readListenerTable world family rows machine = (.ok a, stop) ↔
      ∃ table next, (world.tcpListenerTable family machine.world = (.ok table, next) ∧
        rows table = .ok a) ∧ stop = { machine with world := next } := by
  simp only [readListenerTable, Program.bind_eq_ok_iff, askNative_eq_ok_iff]
  constructor
  · intro hrun
    obtain ⟨table, _, ⟨next, hcall, rfl⟩, hrows⟩ := hrun
    obtain ⟨hrows, hstop⟩ := Prod.ext_iff.mp hrows
    exact ⟨table, next, ⟨hcall, hrows⟩, hstop.symm⟩
  · intro hrun
    obtain ⟨table, next, ⟨hcall, hrows⟩, rfl⟩ := hrun
    exact ⟨table, _, ⟨next, hcall, rfl⟩, Prod.ext hrows rfl⟩

/-- A check of the owner asks, records the answer and goes on only after a yes. -/
theorem check_eq_ok_iff {call : W → Except LaunchError Bool × W} {seen : Bool → Observation}
    {error : LaunchError} {u : Unit} :
    (do
      let answer ← askNative call
      observe (seen answer)
      if answer then return () else Program.fail error : Native W Unit) machine = (.ok u, stop) ↔
      ∃ next, call machine.world = (.ok true, next) ∧
        stop = { machine with world := next, log := machine.log ++ [seen true] } := by
  simp only [Program.bind_eq_ok_iff, askNative_eq_ok_iff]
  constructor
  · intro hrun
    obtain ⟨answer, _, ⟨next, hcall, rfl⟩, _, _, hobserve, hrun⟩ := hrun
    cases hobserve
    cases answer with
    | false => cases hrun
    | true =>
        cases hrun
        exact ⟨next, hcall, rfl⟩
  · intro hrun
    obtain ⟨next, hcall, rfl⟩ := hrun
    exact ⟨true, _, ⟨next, hcall, rfl⟩, (), _, rfl, rfl⟩

theorem requireAlive_eq_ok_iff {u : Unit} :
    requireAlive world handle machine = (.ok u, stop) ↔
      ∃ next, world.isAlive handle machine.world = (.ok true, next) ∧
        stop = { machine with world := next, log := machine.log ++ [.alive handle true] } :=
  check_eq_ok_iff

theorem requireInJob_eq_ok_iff {u : Unit} :
    requireInJob world handle job machine = (.ok u, stop) ↔
      ∃ next, world.isInJob handle job machine.world = (.ok true, next) ∧
        stop = { machine with world := next, log := machine.log ++ [.inJob handle job true] } :=
  check_eq_ok_iff

/-- The member passes the first checks, and the tables are read. -/
def TablesRead (world : World W) (process : JobProcess) (member : JobMemberProcess) (start : W)
    (ipv4 : List ListenerRow) (ipv6 : List UInt16) (read : W) : Prop :=
  ∃ alive inside table4 listed table6, world.isAlive member.process start = (.ok true, alive) ∧
    world.isInJob member.process process.job alive = (.ok true, inside) ∧
    (world.tcpListenerTable .inet inside = (.ok table4, listed) ∧
      ipv4TableRows table4 = .ok ipv4) ∧
    world.tcpListenerTable .inet6 listed = (.ok table6, read) ∧
      ipv6TablePorts table6 = .ok ipv6

/-- The member passes the second checks. -/
def StillMember (world : World W) (process : JobProcess) (member : JobMemberProcess) (read : W) :
    Prop :=
  ∃ inside alive, world.isInJob member.process process.job read = (.ok true, inside) ∧
    world.isAlive member.process inside = (.ok true, alive)

end Calls

/-! ## The verdict -/

section Verdict

variable {world : World W} {process : JobProcess} {member : JobMemberProcess} {port : UInt16}
  {start : Machine W} {ipv4 : List ListenerRow} {ipv6 : List UInt16} {read : W}

/-- What is left of the program after the tables are read. -/
def listenerVerdict (world : World W) (process : JobProcess) (member : JobMemberProcess)
    (port : UInt16) (ipv4 : List ListenerRow) (ipv6 : List UInt16) : Native W Unit :=
  let exact := exactRows ipv4 port member.identity.pid
  if rowsOnPort ipv4 port ≠ exact ∨ exact > 1 ∨ ipv6.count port ≠ 0 then
    Program.fail .conflictingListener
  else if exact = 0 then Program.fail .expectedListenerNotFound
  else do
    requireInJob world member.process process.job
    requireAlive world member.process

theorem verifyIpv4Listener_eq (hport : port ≠ 0)
    (hread : TablesRead world process member start.world ipv4 ipv6 read) :
    ∃ log, verifyIpv4Listener world process member port start =
      listenerVerdict world process member port ipv4 ipv6
        { start with world := read, log := log } := by
  obtain ⟨alive, inside, table4, listed, table6, halive, hinside, hipv4, hipv6⟩ := hread
  rw [verifyIpv4Listener, if_neg hport,
    Program.bind_of_ok ((requireAlive_eq_ok_iff (u := ())).mpr ⟨alive, halive, rfl⟩),
    Program.bind_of_ok ((requireInJob_eq_ok_iff (u := ())).mpr ⟨inside, hinside, rfl⟩),
    ipv4ListenerRows, ipv6ListenerPorts,
    Program.bind_of_ok (readListenerTable_eq_ok_iff.mpr ⟨table4, listed, hipv4, rfl⟩),
    Program.bind_of_ok (readListenerTable_eq_ok_iff.mpr ⟨table6, read, hipv6, rfl⟩)]
  exact ⟨_, rfl⟩

/-- A success has passed the first checks and read both tables. -/
theorem tablesRead_of_ok {stop : Machine W}
    (hok : verifyIpv4Listener world process member port start = (.ok (), stop)) :
    port ≠ 0 ∧ ∃ ipv4 ipv6 read, TablesRead world process member start.world ipv4 ipv6 read := by
  unfold verifyIpv4Listener at hok
  split at hok
  next => cases hok
  next hport =>
    refine ⟨hport, ?_⟩
    simp only [Program.bind_eq_ok_iff, requireAlive_eq_ok_iff, requireInJob_eq_ok_iff,
      ipv4ListenerRows, ipv6ListenerPorts, readListenerTable_eq_ok_iff] at hok
    obtain ⟨_, _, ⟨alive, halive, rfl⟩, _, _, ⟨inside, hinside, rfl⟩, ipv4, _,
      ⟨table4, listed, hipv4, rfl⟩, ipv6, _, ⟨table6, read, hipv6, rfl⟩, -⟩ := hok
    exact ⟨ipv4, ipv6, read, alive, inside, table4, listed, table6, halive, hinside, hipv4, hipv6⟩

theorem listenerVerdict_sole (hsole : SoleListener ipv4 ipv6 port member.identity.pid) :
    listenerVerdict world process member port ipv4 ipv6 = (do
      requireInJob world member.process process.job
      requireAlive world member.process) := by
  have hno : ¬(¬SoleListener ipv4 ipv6 port member.identity.pid ∧ ¬UnusedPort ipv4 ipv6 port) :=
    fun hconflict => hconflict.1 hsole
  rw [← conflict_iff] at hno
  have hexact := (soleListener_iff.mp hsole).2.1
  have hne : exactRows ipv4 port member.identity.pid ≠ 0 := by omega
  simp only [listenerVerdict, if_neg hno, if_neg hne]

theorem listenerVerdict_unused (hunused : UnusedPort ipv4 ipv6 port) :
    listenerVerdict world process member port ipv4 ipv6 =
      Program.fail .expectedListenerNotFound := by
  have hno : ¬(¬SoleListener ipv4 ipv6 port member.identity.pid ∧ ¬UnusedPort ipv4 ipv6 port) :=
    fun hconflict => hconflict.2 hunused
  rw [← conflict_iff] at hno
  have hrows := (unusedPort_iff.mp hunused).1
  have hle : exactRows ipv4 port member.identity.pid ≤
      rowsOnPort ipv4 port := exactRows_le
  have hzero : exactRows ipv4 port member.identity.pid = 0 := by omega
  simp only [listenerVerdict, if_neg hno, if_pos hzero]

theorem listenerVerdict_conflict (hsole : ¬SoleListener ipv4 ipv6 port member.identity.pid)
    (hused : ¬UnusedPort ipv4 ipv6 port) :
    listenerVerdict world process member port ipv4 ipv6 = Program.fail .conflictingListener := by
  have hconflict := conflict_iff.mpr ⟨hsole, hused⟩
  simp only [listenerVerdict, if_pos hconflict]

theorem SoleListener.not_unused (hsole : SoleListener ipv4 ipv6 port member.identity.pid) :
    ¬UnusedPort ipv4 ipv6 port := by
  intro hunused
  have hone := (soleListener_iff.mp hsole).1
  rw [(unusedPort_iff.mp hunused).1] at hone
  cases hone

/-- The second checks decide only where the member is the only listener. -/
theorem run_secondChecks (hstill : StillMember world process member start.world) :
    ∃ stop, ((do
      requireInJob world member.process process.job
      requireAlive world member.process) : Native W Unit) start = (.ok (), stop) := by
  obtain ⟨inside, alive, hinside, halive⟩ := hstill
  rw [Program.bind_of_ok ((requireInJob_eq_ok_iff (u := ())).mpr ⟨inside, hinside, rfl⟩)]
  exact ⟨_, requireAlive_eq_ok_iff.mpr ⟨alive, halive, rfl⟩⟩

/-- A success has seen one row. -/
theorem soleListener_of_ok
    (hok : (verifyIpv4Listener world process member port start).1 = .ok ()) :
    ∃ ipv4 ipv6 read, TablesRead world process member start.world ipv4 ipv6 read ∧
      SoleListener ipv4 ipv6 port member.identity.pid := by
  have hrun : verifyIpv4Listener world process member port start =
      (.ok (), (verifyIpv4Listener world process member port start).2) := Prod.ext hok rfl
  obtain ⟨hport, ipv4, ipv6, read, hread⟩ := tablesRead_of_ok hrun
  refine ⟨ipv4, ipv6, read, hread, ?_⟩
  obtain ⟨log, hverdict⟩ := verifyIpv4Listener_eq hport hread
  by_contra hsole
  rw [hverdict] at hok
  by_cases hunused : UnusedPort ipv4 ipv6 port
  · rw [listenerVerdict_unused hunused] at hok
    cases hok
  · rw [listenerVerdict_conflict hsole hunused] at hok
    cases hok

/-- The verdict is the rule, whatever the tables hold and in whatever order: port zero is
refused, a success has seen one row, and between the checks the three cases have their three
answers. The rows come from a reader that never leaves the storage the system filled. -/
theorem verifyIpv4Listener_verdict (world : World W) (process : JobProcess)
    (member : JobMemberProcess) (port : UInt16) (start : Machine W) :
    (port = 0 →
        (verifyIpv4Listener world process member port start).1 = .error .invalidListenerPort) ∧
      ((verifyIpv4Listener world process member port start).1 = .ok () →
        ∃ ipv4 ipv6 read, TablesRead world process member start.world ipv4 ipv6 read ∧
          SoleListener ipv4 ipv6 port member.identity.pid) ∧
      (∀ ipv4 ipv6 read, port ≠ 0 →
        TablesRead world process member start.world ipv4 ipv6 read →
        StillMember world process member read →
          ((verifyIpv4Listener world process member port start).1 = .ok () ↔
            SoleListener ipv4 ipv6 port member.identity.pid) ∧
          ((verifyIpv4Listener world process member port start).1 =
              .error .expectedListenerNotFound ↔ UnusedPort ipv4 ipv6 port) ∧
          ((verifyIpv4Listener world process member port start).1 =
              .error .conflictingListener ↔
            ¬SoleListener ipv4 ipv6 port member.identity.pid ∧
              ¬UnusedPort ipv4 ipv6 port)) ∧
      ∀ size storage rowsOffset,
        Windows.readTableRows size storage rowsOffset = some (.error .malformedTcpTable) ∨
          ∃ rows, Windows.readTableRows size storage rowsOffset = some (.ok rows) ∧
            rows.length = Windows.declaredCount storage ∧
            ∀ index (hindex : index < rows.length),
              rowsOffset + index * size + size ≤ storage.length * Windows.sizeOfUsize ∧
                rows[index] =
                  ((Windows.storageBytes storage).drop (rowsOffset + index * size)).take size := by
  refine ⟨?_, soleListener_of_ok, ?_, Windows.readTableRows_within⟩
  · intro hport
    rw [verifyIpv4Listener, if_pos hport]
    rfl
  · intro ipv4 ipv6 read hport hread hstill
    obtain ⟨log, hverdict⟩ := verifyIpv4Listener_eq hport hread
    rw [hverdict]
    by_cases hsole : SoleListener ipv4 ipv6 port member.identity.pid
    · have hstart : StillMember world process member
          ({ start with world := read, log := log } : Machine W).world := hstill
      obtain ⟨stop, hrun⟩ := run_secondChecks hstart
      rw [listenerVerdict_sole hsole, hrun]
      simp [hsole, hsole.not_unused]
    · by_cases hunused : UnusedPort ipv4 ipv6 port
      · rw [listenerVerdict_unused hunused]
        simp [Program.fail, hsole, hunused]
      · rw [listenerVerdict_conflict hsole hunused]
        simp [Program.fail, hsole, hunused]

end Verdict

/-- Port zero is refused, although nobody listens on it. -/
theorem verifyIpv4Listener_zero :
    TablesRead fixtureWorld fixtureProcess ⟨8, ⟨fixturePid, 1⟩⟩ fixtureRun.2.world
        [⟨fixturePort, localhost, fixturePid, true⟩] [] fixtureRun.2.world ∧
      StillMember fixtureWorld fixtureProcess ⟨8, ⟨fixturePid, 1⟩⟩ fixtureRun.2.world ∧
      UnusedPort [⟨fixturePort, localhost, fixturePid, true⟩] [] 0 ∧
      (verifyIpv4Listener fixtureWorld fixtureProcess ⟨8, ⟨fixturePid, 1⟩⟩ 0 fixtureRun.2).1 ≠
        .error .expectedListenerNotFound := by
  obtain ⟨hipv4, hipv6⟩ := fixtureTable_rows
  refine ⟨⟨_, _, _, _, _, rfl, rfl, ⟨rfl, hipv4⟩, rfl, hipv6⟩, ⟨_, _, rfl, rfl⟩, ?_, ?_⟩
  · simp only [UnusedPort, List.forall_mem_singleton, List.not_mem_nil, not_false_eq_true, and_true]
    decide
  · rw [verifyIpv4Listener, if_pos rfl]
    intro heq
    cases heq

end Rpackit.Lifecycle

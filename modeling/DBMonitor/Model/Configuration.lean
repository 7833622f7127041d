import Mathlib.Tactic

namespace DBMonitor

abbrev HostRef := Nat

abbrev PoolRef := Nat

structure StringObject where
  address : Nat
  text : String
  deriving DecidableEq, Repr

structure MySQLHost where
  hostname : Option StringObject := none
  active : Option Int := none
  slave : Option Int := none
  pool : Option PoolRef := none
  deriving DecidableEq, Repr

structure Pool where
  active : Option Int := none
  monitorTimer : Option Int := some 1
  triggerTimer : Option Int := some 5
  deriving DecidableEq, Repr

-- A message to nil answers 0.
def integerValue (n : Option Int) : Int := n.getD 0

structure Configuration where
  host : HostRef → MySQLHost
  pool : PoolRef → Pool
  pools : List PoolRef
  mysqlhosts : PoolRef → List HostRef
  pools_nodup : pools.Nodup
  mysqlhosts_nodup : ∀ p, (mysqlhosts p).Nodup
  inverse : ∀ p h, h ∈ mysqlhosts p ↔ (host h).pool = some p
  fetched : ∀ p h, (host h).pool = some p → p ∈ pools

namespace Configuration

def poolOf (c : Configuration) (aHost : HostRef) : Option Pool := (c.host aHost).pool.map c.pool

def monitorTimer (c : Configuration) (aHost : HostRef) : Int :=
  integerValue ((c.poolOf aHost).bind Pool.monitorTimer)

def triggerTimer (c : Configuration) (aHost : HostRef) : Int :=
  integerValue ((c.poolOf aHost).bind Pool.triggerTimer)

def isActive (c : Configuration) (aHost : HostRef) : Bool :=
  decide (integerValue (c.host aHost).active = 1) &&
    decide (integerValue ((c.poolOf aHost).bind Pool.active) = 1)

def isSlave (c : Configuration) (aHost : HostRef) : Bool :=
  decide (integerValue (c.host aHost).slave ≠ 0)

def hostnameAddress (c : Configuration) (aHost : HostRef) : Option Nat :=
  (c.host aHost).hostname.map StringObject.address

-- [a hostname] == [b hostname] compares the two string objects, and nil == nil.
def sameHostname (c : Configuration) (a b : HostRef) : Bool :=
  decide (c.hostnameAddress a = c.hostnameAddress b)

def hosts (c : Configuration) : List HostRef := c.pools.flatMap c.mysqlhosts

@[simp] theorem sameHostname_self (c : Configuration) (h : HostRef) : c.sameHostname h h = true := by
  simp [sameHostname]

theorem mem_hosts {c : Configuration} {h : HostRef} :
    h ∈ c.hosts ↔ (c.host h).pool.isSome = true := by
  simp only [hosts, List.mem_flatMap, Option.isSome_iff_exists]
  constructor
  · rintro ⟨p, _, hp⟩
    exact ⟨p, (c.inverse p h).mp hp⟩
  · rintro ⟨p, hp⟩
    exact ⟨p, c.fetched p h hp, (c.inverse p h).mpr hp⟩

theorem hosts_nodup (c : Configuration) : c.hosts.Nodup := by
  refine List.nodup_flatMap.mpr ⟨fun p _ => c.mysqlhosts_nodup p, ?_⟩
  refine c.pools_nodup.imp ?_
  intro p q hpq h hp hq
  have hp' := (c.inverse p h).mp hp
  have hq' := (c.inverse q h).mp hq
  exact hpq (Option.some.inj (hp'.symm.trans hq'))

def OwnsHostname (c : Configuration) (aHost : HostRef) : Prop :=
  ∀ other, c.sameHostname other aHost = true → other = aHost

def onePool (aPool : Pool) (members : List HostRef) (hn : members.Nodup)
    (active slave : HostRef → Int) : Configuration where
  host h :=
    { hostname := some ⟨h, "db" ++ toString h⟩
      active := some (active h)
      slave := some (slave h)
      pool := if h ∈ members then some 0 else none }
  pool _ := aPool
  pools := [0]
  mysqlhosts p := if p = 0 then members else []
  pools_nodup := List.nodup_singleton 0
  mysqlhosts_nodup p := by
    split
    · exact hn
    · exact List.nodup_nil
  inverse p h := by
    by_cases hp : p = 0 <;> simp [hp, eq_comm]
  fetched p h := by
    simp only [List.mem_singleton]
    split
    · exact fun heq => (Option.some.inj heq).symm
    · simp

def withHostnames (c : Configuration) (hostname : HostRef → Option StringObject) : Configuration :=
  { c with host := fun h => { c.host h with hostname := hostname h } }

theorem onePool_ownsHostname (aPool : Pool) (members : List HostRef) (hn : members.Nodup)
    (active slave : HostRef → Int) (aHost : HostRef) :
    (onePool aPool members hn active slave).OwnsHostname aHost := by
  intro other h
  simpa [sameHostname, hostnameAddress, onePool] using h

end Configuration

end DBMonitor

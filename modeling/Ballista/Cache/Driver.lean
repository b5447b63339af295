import Ballista.Lib.Interleaving

/-! # The loading cache's driver on one key

`CacheDriver` (`cache/src/loading_cache/driver.rs`) keeps, under one lock, the
cached entries, the value loader running for each key and the tag of the next
loader. `get_with_status` returns a cached value, or joins the loader already
running for the key, or registers a new loader and runs its future itself; all
of them then read the loader's shared receiver. `put` side-loads its value into
the running loader, unregisters it and caches the value; `invalidate`
unregisters the loader and drops the cached value.

The loader future selects, preferring the side channel, between a side-loaded
value and the loader's own result; the loader's own result is stored by
`ResultSubmitter::finalize` only if the loader registered for the key still has
the loader's tag. Every lock-protected section of the source is one step here,
and so is every poll of the side channel and every send or drop of a channel.

The model follows one key. The loader's `load` is a parameter: how many times
it suspends before it completes, and the value it loads for the request's
extra argument. Each process is a client that makes its calls in order; a
client whose task panicked makes no further step. A loader is named by the
index of its channels in the list of channels created so far.
-/

namespace Ballista

namespace Cache

/-- A oneshot channel as its receiver sees it: nothing yet, the value sent, or
closed because the sender was dropped without sending. -/
inductive Oneshot (α : Type) where
  | pending
  | sent (value : α)
  | closed
  deriving DecidableEq, Repr

namespace Oneshot

variable {α : Type}

/-- `Sender::send`: only the first value reaches the receiver. -/
def send (channel : Oneshot α) (value : α) : Oneshot α :=
  match channel with
  | .pending => .sent value
  | other => other

/-- Dropping the sender closes a channel nothing was sent on. -/
def drop (channel : Oneshot α) : Oneshot α :=
  match channel with
  | .pending => .closed
  | other => other

end Oneshot

/-- The two channels of a value loader: `set`, on which `put` side-loads a
value into the running loader, and `main`, on which the loader future
broadcasts its value to the clones of `recv`. -/
structure LoaderChannels (Value : Type) where
  set : Oneshot Value
  main : Oneshot Value
  deriving DecidableEq, Repr

/-- `ValueLoader`, as the map of loaders holds it: its tag, and the loader it is. -/
structure ValueLoader where
  tag : UInt64
  loader : Nat
  deriving DecidableEq, Repr

/-- `CacheState`, on one key: the cached value, the loader registered for the
key, and the tag of the next loader. -/
structure CacheState (Value : Type) where
  cachedEntries : Option Value
  loaders : Option ValueLoader
  nextLoaderTag : UInt64
  deriving DecidableEq, Repr

/-- What the clients share: the state under the lock, and the channels of every
loader created so far. -/
structure DriverState (Value : Type) where
  state : CacheState Value
  channels : List (LoaderChannels Value)
  deriving DecidableEq, Repr

/-- `u64::MAX`. -/
def maxLoaderTag : UInt64 := 18446744073709551615

variable {Value : Type}

/-- `CacheState::next_loader_tag`: the tag for a new loader, the counter
starting again from zero after `u64::MAX`. -/
def CacheState.advanceLoaderTag (state : CacheState Value) : UInt64 × CacheState Value :=
  (state.nextLoaderTag, { state with
    nextLoaderTag := if state.nextLoaderTag ≠ maxLoaderTag then state.nextLoaderTag + 1 else 0 })

/-- The state of the lock with the loader unregistered: the removed
`ValueLoader` is dropped, and with it the sender of its side channel. -/
def DriverState.unregister (driver : DriverState Value) (loader : ValueLoader) : DriverState Value :=
  { state := { driver.state with loaders := none },
    channels := driver.channels.modify loader.loader fun channels =>
      { channels with set := channels.set.drop } }

/-- What a loader's `load` does: it suspends `polls` times, then returns `value`. -/
structure Load (Value : Type) where
  polls : Nat
  value : Value
  deriving DecidableEq, Repr

/-- `CacheGetStatus`. -/
inductive CacheGetStatus where
  | hit
  | miss
  | missAlreadyLoading
  deriving DecidableEq, Repr

/-- Where the branch `loader_fut` of a loader future is: not polled yet; running
the loader, which suspends the given number of times more, with its
`ResultSubmitter` not finalized; or past a `submit` that found the loader no
longer in charge, yielding forever. -/
inductive LoadProgress where
  | fresh
  | loading (polls : Nat)
  | spinning
  deriving DecidableEq, Repr

/-- Where a loader future is: about to poll the side channel; about to poll
`loader_fut`; leaving the `select_biased!`, which drops `loader_fut`, with the
side-loaded value or, when the side channel closed, with none; about to drop
`tx_main` unsent; or about to broadcast a value on `tx_main`. -/
inductive LoaderFuture (Value : Type) where
  | select (load : LoadProgress)
  | pollLoad (load : LoadProgress)
  | dropLoad (load : LoadProgress) (sideLoaded : Option Value)
  | abandon
  | broadcast (value : Value)
  deriving DecidableEq, Repr

/-- Where a `get_with_status` call is: running the future of the loader it
registered; reading a loader's shared receiver (`retrieve_from_shared`); returned;
or panicked on the receiver's error. -/
inductive GetState (Value Extra : Type) where
  | leading (loader : ValueLoader) (extra : Extra) (future : LoaderFuture Value)
  | waiting (loader : Nat) (status : CacheGetStatus)
  | returned (value : Value) (status : CacheGetStatus)
  | panicked
  deriving DecidableEq, Repr

/-- A call of the driver on the key; `evict` is the backend's policy dropping
the entry. -/
inductive Call (Value Extra : Type) where
  | get (extra : Extra)
  | put (value : Value)
  | invalidate
  | evict
  deriving DecidableEq, Repr

/-- The call a client is in: none, a `get_with_status`, or a `put` driving the
loader it superseded to completion. -/
inductive CallState (Value Extra : Type) where
  | idle
  | get (state : GetState Value Extra)
  | draining (loader : Nat)
  deriving DecidableEq, Repr

/-- A client: its call in progress and the calls it makes next. -/
structure Client (Value Extra : Type) where
  call : CallState Value Extra
  program : List (Call Value Extra)
  deriving DecidableEq, Repr

variable {Extra : Type} (load : Extra → Load Value)

/-- The channels of a loader. -/
def DriverState.channelsOf (driver : DriverState Value) (loader : Nat) :
    Option (LoaderChannels Value) :=
  driver.channels[loader]?

/-- The lock-protected section of `get_with_status`: a hit, a join of the
running loader, or a new loader registered under the next tag. -/
def getLocked (driver : DriverState Value) (extra : Extra) :
    DriverState Value × GetState Value Extra :=
  match driver.state.cachedEntries with
  | some value => (driver, .returned value .hit)
  | none =>
    match driver.state.loaders with
    | some loader => (driver, .waiting loader.loader .missAlreadyLoading)
    | none =>
      let (tag, state) := driver.state.advanceLoaderTag
      let loader : ValueLoader := { tag := tag, loader := driver.channels.length }
      ({ state := { state with loaders := some loader },
          channels := driver.channels ++ [{ set := .pending, main := .pending }] },
        .leading loader extra (.select .fresh))

/-- The lock-protected section of `put`: side-load the value into the running
loader and unregister it, then cache the value. -/
def putLocked (driver : DriverState Value) (value : Value) : DriverState Value × CallState Value Extra :=
  match driver.state.loaders with
  | some loader =>
    let sent : DriverState Value := { driver with
      channels := driver.channels.modify loader.loader fun channels =>
        { channels with set := channels.set.send value } }
    ({ sent.unregister loader with
        state := { (sent.unregister loader).state with cachedEntries := some value } },
      .draining loader.loader)
  | none => ({ driver with state := { driver.state with cachedEntries := some value } }, .idle)

/-- `invalidate`: unregister the running loader and drop the cached value. -/
def invalidateLocked (driver : DriverState Value) : DriverState Value :=
  let unregistered :=
    match driver.state.loaders with
    | some loader => driver.unregister loader
    | none => driver
  { unregistered with state := { unregistered.state with cachedEntries := none } }

/-- `ResultSubmitter::finalize`: when the loader registered for the key has this
loader's tag, unregister it and store the value, if there is one; whether the
tags agreed. -/
def finalize (driver : DriverState Value) (tag : UInt64) (value : Option Value) :
    DriverState Value × Bool :=
  match driver.state.loaders with
  | some registered =>
    if registered.tag = tag then
      let unregistered := driver.unregister registered
      ({ unregistered with
          state := { unregistered.state with
            cachedEntries := value.or unregistered.state.cachedEntries } }, true)
    else (driver, false)
  | none => (driver, false)

/-- One step of a loader future run by the `get_with_status` call that
registered the loader. -/
def stepFuture (driver : DriverState Value) (loader : ValueLoader) (extra : Extra) :
    LoaderFuture Value → Option (DriverState Value × GetState Value Extra)
  | .select progress =>
    (driver.channelsOf loader.loader).map fun channels =>
      match channels.set with
      | .sent value => (driver, .leading loader extra (.dropLoad progress (some value)))
      | .closed => (driver, .leading loader extra (.dropLoad progress none))
      | .pending => (driver, .leading loader extra (.pollLoad progress))
  | .pollLoad .fresh =>
    some (driver, .leading loader extra (.pollLoad (.loading (load extra).polls)))
  | .pollLoad (.loading (polls + 1)) =>
    some (driver, .leading loader extra (.select (.loading polls)))
  | .pollLoad (.loading 0) =>
    let (submitted, wasRunning) := finalize driver loader.tag (some (load extra).value)
    if wasRunning then some (submitted, .leading loader extra (.broadcast (load extra).value))
    else some (submitted, .leading loader extra (.select .spinning))
  | .pollLoad .spinning => some (driver, .leading loader extra (.select .spinning))
  | .dropLoad progress sideLoaded =>
    -- dropping `loader_fut` drops its `ResultSubmitter`, which finalizes when
    -- the loader ran and did not submit
    let dropped :=
      match progress with
      | .loading _ => (finalize driver loader.tag none).1
      | _ => driver
    match sideLoaded with
    | some value => some (dropped, .leading loader extra (.broadcast value))
    | none => some (dropped, .leading loader extra .abandon)
  | .abandon =>
    some ({ driver with
      channels := driver.channels.modify loader.loader fun channels =>
        { channels with main := channels.main.drop } }, .waiting loader.loader .miss)
  | .broadcast value =>
    some ({ driver with
      channels := driver.channels.modify loader.loader fun channels =>
        { channels with main := channels.main.send value } }, .waiting loader.loader .miss)

/-- Begin a client's next call, running its first lock-protected section. -/
def beginCall (driver : DriverState Value) : Call Value Extra → DriverState Value × CallState Value Extra
  | .get extra =>
    let (locked, state) := getLocked driver extra
    (locked, .get state)
  | .put value => putLocked driver value
  | .invalidate => (invalidateLocked driver, .idle)
  | .evict => ({ driver with state := { driver.state with cachedEntries := none } }, .idle)

/-- A client whose call is over begins its next one. -/
def nextCall (driver : DriverState Value) (program : List (Call Value Extra)) :
    Option (DriverState Value × Client Value Extra) :=
  match program with
  | [] => none
  | call :: rest =>
    let (begun, state) := beginCall driver call
    some (begun, { call := state, program := rest })

/-- One atomic step of a client. A client reading a receiver that is still
pending, or whose task panicked, does not move. -/
def clientStep (driver : DriverState Value) (client : Client Value Extra) :
    Option (DriverState Value × Client Value Extra) :=
  match client.call with
  | .idle => nextCall driver client.program
  | .get (.returned _ _) => nextCall driver client.program
  | .get .panicked => none
  | .get (.leading loader extra future) =>
    (stepFuture load driver loader extra future).map fun (next, state) =>
      (next, { client with call := .get state })
  | .get (.waiting loader status) =>
    (driver.channelsOf loader).bind fun channels =>
      match channels.main with
      | .sent value => some (driver, { client with call := .get (.returned value status) })
      -- `retrieve_from_shared` expects the receiver's value
      | .closed => some (driver, { client with call := .get .panicked })
      | .pending => none
  | .draining loader =>
    (driver.channelsOf loader).bind fun channels =>
      match channels.main with
      | .pending => none
      | _ => some (driver, { client with call := .idle })

/-- `CacheDriver::new`: nothing cached, no loader, the first tag zero. -/
def DriverState.new : DriverState Value :=
  { state := { cachedEntries := none, loaders := none, nextLoaderTag := 0 }, channels := [] }

/-- Clients about to make their calls on a new driver. -/
def start (programs : List (List (Call Value Extra))) :
    Interleaving.Config (DriverState Value) (Client Value Extra) :=
  { shared := DriverState.new, procs := programs.map fun program => { call := .idle, program } }

/-! ## A loader removed while it runs

`invalidate` unregisters the running loader without side-loading a value, and
dropping the `ValueLoader` closes the side channel. The loader future prefers
the side channel, so at its next poll it leaves the `select_biased!` on the
error and returns without broadcasting; every `get_with_status` reading the
loader's receiver, the one that started the loader and those that joined it,
then panics in `retrieve_from_shared` (`invalidatedLoader_panics_run`).
-/

/-- A loader that suspends once before loading a value. -/
def slowLoad : Load String := { polls := 1, value := "loaded" }

/-- A client starts a loader that suspends, a second client joins it, and a
third invalidates the key while the loader is suspended. -/
def invalidatedLoaderClients : List (List (Call String (Load String))) :=
  [[.get slowLoad], [.get { polls := 0, value := "joined" }], [.invalidate]]

/-- The loader registers, the second client joins it, the loader polls and
suspends, the key is invalidated, and the loader future and both readers move
to the end. -/
def invalidatedLoaderSchedule : List Nat := [0, 1, 0, 0, 0, 2, 0, 0, 0, 0, 1]

/-- Both `get_with_status` calls of the invalidated loader panic. -/
theorem invalidatedLoader_panics_run :
    ∃ config, Interleaving.Reaches (clientStep id) (start invalidatedLoaderClients) config ∧
      config.procs.map Client.call = [.get .panicked, .get .panicked, .idle] :=
  Interleaving.Reaches.exists_of_schedule_any invalidatedLoaderSchedule (by decide +kernel)

end Cache

end Ballista

import Courier.Program
import Courier.Proofs.Discovery.Gathering
import Courier.Proofs.FileSystem.Disk
import Courier.Proofs.Plan.Rearranged

/-!
# What the program reports of files

Discovery goes through some roots one after the other, each with a call of its own, and
the program prints how many files there are, how many in each part of a plan, and their
total size. Calls gather the files of a root in an order that depends on workers and
schedule; what is printed does not, as long as all threads are started and the roots
show the same contents. They need not do that if the journal is kept below one of them,
for the journal tells how many workers there are.
-/

namespace Courier

/-- Whether an error says that a thread was refused. -/
def Discovery.CallError.IsRefusal (error : Discovery.CallError) : Prop :=
  error = .unstarted ∨ error = Discovery.Host.refusal.thrown

namespace Program

open Discovery (Host Gathers CallError)

variable {disk : Disk} {host otherHost : Host} {settings otherSettings : Discovery.Settings}
  {journal otherJournal begun : Journal} {root : String} {roots rest : List String} {files : List File}
  {outcome : Except CallError (List File)} {systems otherSystems : List (Except DiscoveryError FileSystem)}

/-! ## Roots in turn -/

/-- What discovery of some roots can come to on a host, over all capacities and schedules at each. Every root gives a
file system, or else the reason why there is none. -/
inductive Finds (host : Host) (settings : Discovery.Settings) :
    List (Except DiscoveryError FileSystem) → Except CallError (List File) → Prop where
  | nothing : Finds host settings [] (.ok [])
  | unrooted (error : DiscoveryError) (rest : List (Except DiscoveryError FileSystem)) :
      Finds host settings (.error error :: rest) (.error (.discovery error))
  | unstarted (system : FileSystem) (rest : List (Except DiscoveryError FileSystem)) (refused : host.threads = 0) :
      Finds host settings (.ok system :: rest) (.error .unstarted)
  | fails {system : FileSystem} {left : Host} {error : CallError} (rest : List (Except DiscoveryError FileSystem))
      (spawned : host.spawned? = some left) (gathers : Gathers left settings system (.error error)) :
      Finds host settings (.ok system :: rest) (.error error)
  | finds {system : FileSystem} {left : Host} {found : List File} {rest : List (Except DiscoveryError FileSystem)}
      {outcome : Except CallError (List File)} (spawned : host.spawned? = some left)
      (gathers : Gathers left settings system (.ok found)) (others : Finds host settings rest outcome) :
      Finds host settings (.ok system :: rest) (outcome.map (found ++ ·))

/-- Whether the same is found at a root: alike file systems, or the same reason why there is none. -/
inductive AlikeAt : Except DiscoveryError FileSystem → Except DiscoveryError FileSystem → Prop where
  | unrooted (error : DiscoveryError) : AlikeAt (.error error) (.error error)
  | rooted {system other : FileSystem}
      (alike : (Discovery.Source.ofFileSystem system).Alike (.ofFileSystem other)) : AlikeAt (.ok system) (.ok other)

theorem AlikeAt.refl (found : Except DiscoveryError FileSystem) : AlikeAt found found := by
  cases found with
  | error error => exact .unrooted error
  | ok system => exact .rooted (.refl _)

protected theorem AlikeAt.symm {found other : Except DiscoveryError FileSystem} (alike : AlikeAt found other) :
    AlikeAt other found := by
  cases alike with
  | unrooted error => exact .unrooted error
  | rooted alike => exact .rooted alike.symm

protected theorem AlikeAt.trans {found other last : Except DiscoveryError FileSystem} (alike : AlikeAt found other)
    (later : AlikeAt other last) : AlikeAt found last := by
  cases alike with
  | unrooted error => exact later
  | rooted alike =>
      cases later with
      | rooted later => exact .rooted (alike.trans later)

/-- If files were found at some roots, everything that discovery can come to at roots that are alike are these files, in
some order, unless a thread is refused. -/
theorem Finds.alike (finds : Finds host settings systems (.ok files))
    (alike : List.Forall₂ AlikeAt systems otherSystems) (again : Finds otherHost otherSettings otherSystems outcome) :
    (∃ others, outcome = .ok others ∧ files.Perm others) ∨
      ∃ error, outcome = .error error ∧ error.IsRefusal ∧ otherHost.threads ≤ otherSettings.workers := by
  generalize told : (.ok files : Except CallError (List File)) = first at finds
  induction finds generalizing files outcome otherSystems with
  | nothing =>
      cases told
      cases alike
      cases again
      exact .inl ⟨[], rfl, .refl _⟩
  | unrooted | unstarted | fails => cases told
  | @finds system left found rest more spawned gathers others ih =>
      cases more with
      | error error => cases told
      | ok more =>
          cases told
          obtain _ | ⟨⟨⟩ | ⟨alikeHere⟩, alikeLater⟩ := alike
          cases again with
          | unstarted _ _ refused => exact .inr ⟨_, rfl, .inl rfl, refused ▸ Nat.zero_le _⟩
          | fails _ spawned failed =>
              rcases gathers.alike alikeHere failed with ⟨_, never, _⟩ | ⟨same, refused⟩
              · cases never
              · cases same
                exact .inr ⟨_, rfl, .inr rfl, Discovery.Host.threads_of_spawned? spawned ▸ refused⟩
          | finds spawned gathersAgain later =>
              rcases gathers.alike alikeHere gathersAgain with ⟨alsoFound, same, front⟩ | ⟨never, _⟩
              · cases same
                rcases ih alikeLater later rfl with ⟨alsoMore, rfl, back⟩ | ⟨error, rfl, refused⟩
                · exact .inl ⟨_, rfl, front.append back⟩
                · exact .inr ⟨error, rfl, refused⟩
              · cases never

/-! ## The roots of the program -/

/-- The journal once a root is in use. -/
def entered (journal : Journal) (root : String) : Journal :=
  journal.record .info ("Local filesystem: Using root " ++ root)

/-- What it tells before the number of workers. -/
def toldAtFirst : String := "" ++ Journal.fileLine ⟨"", "/"⟩ .info "Local filesystem: Using root tree"

/-- What it tells before some workers begin. -/
def told (workers : Nat) : String :=
  toldAtFirst ++
    Journal.fileLine ⟨"", "/"⟩ .info ("File discovery: Scanning tree with " ++ toString workers ++ " workers")

end Courier.Program

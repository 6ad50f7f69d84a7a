import Drtm.Foundation.PartialRings
import Drtm.Properties.Update

/-!
# Where the listed threads come from

A link that cannot be read leads the walk to address 0 instead of ending the
list, so that a thread may be listed which no link leads to.
-/

namespace Drtm.RunTimeData

open Foundation

variable {backend : Backend} {md : Metadata} {ts ts' : Threads}

/-- The lists as far as their next links can be read. -/
def linksRead (backend : Backend) (md : Metadata) : PartialRings Addr where
  link? node := backend.long? (node + md.listLinks.nextOffset.toUInt32)
  down := (rings backend md).down

theorem total_linksRead : (linksRead backend md).total 0 = rings backend md :=
  rfl

/--
The threads are those of a forest in which every thread is reached by a link
that was read, and in which a link that was not read ends its list.
-/
def NoPhantoms (backend : Backend) (md : Metadata) (addrs : List Addr) :
    Prop :=
  ∃ forest, (linksRead backend md).Holds md.scheduler.topThreadsListAddr
      forest ∧
    forest.preorder.map (childrenThreadsIterGet md) = addrs

/-- Where a link cannot be read, the head of its list is at address 0. -/
def LinksClose (backend : Backend) (md : Metadata) : Prop :=
  (linksRead backend md).Closes 0 md.scheduler.topThreadsListAddr
      md.scheduler.topThreadsListAddr ∧
    (linksRead backend md).ClosesFrom 0 (md.scheduler.topThreadsListAddr,
      (rings backend md).link md.scheduler.topThreadsListAddr)

theorem Lists.noPhantoms_iff_linksClose {addrs : List Addr}
    (h : Lists backend md addrs) :
    NoPhantoms backend md addrs ↔ LinksClose backend md := by
  obtain ⟨nodes, hwalks, rfl⟩ := h
  rw [← total_linksRead] at hwalks
  exact PartialRings.exists_holds_iff (childrenThreadsIterGet md) hwalks

def listedAddrs (ts : Threads) : List Addr :=
  (ts.pool.take ts.size).map Thread.addr

theorem lists_of_updateThreads (h : ∃ fuel,
    (updateThreads backend md fuel ts).value = some ts') :
    Lists backend md (listedAddrs ts') := by
  obtain ⟨addrs, hlists, rfl⟩ := updateThreads_eq_some_iff.mp h
  have hlisted : listedAddrs (updateCurrentThread backend md
      (recordAll backend md addrs ts.clear)).value = addrs := by
    simp [listedAddrs, Threads.size, recordAll_clear]
  rwa [hlisted]

/--
An update that returns lists no thread but through links that were read exactly
if every link it could not read belongs to a list whose head is at address 0.
-/
theorem noPhantoms_iff (h : ∃ fuel,
    (updateThreads backend md fuel ts).value = some ts') :
    NoPhantoms backend md (listedAddrs ts') ↔ LinksClose backend md :=
  (lists_of_updateThreads h).noPhantoms_iff_linksClose

theorem linksClose_of_faithful {endian : Endian} {memory : Memory}
    (h : backend.Faithful endian memory) (md : Metadata) :
    LinksClose backend md := by
  have hread : ∀ node, ((linksRead backend md).link? node).isSome := by
    intro node
    simp [linksRead, h.long?]
  exact ⟨Or.inl (hread _), fun _ _ _ => ⟨Or.inl (hread _), Or.inl (hread _)⟩⟩

theorem noPhantoms_at_image :
    NoPhantoms (Image.target familyWords) Image.metadata
      [0x20001000, 0x20001100, 0x20001200] := by
  have hupdate := updateThreads_eq_some_iff.mpr
    ⟨_, lists_familyWords, rfl (a := (updateCurrentThread _ _ (recordAll _ _ _
      (Threads.clear ⟨[], 0, none, fun _ _ => 0⟩))).value)⟩
  rw [← (lists_of_updateThreads hupdate).unique lists_familyWords]
  exact (noPhantoms_iff hupdate).mpr
    (linksClose_of_faithful (Image.target_faithful _) _)

/--
The next link of the top list cannot be read.  At address 0 lies a node with an
empty list of children, whose next link is the top list.
-/
def danglingTarget : Backend :=
  Backend.ofMemory .little Image.headerAddr
    (fun addr => addr ≠ Image.topThreadsListAddr + 4)
    (Image.memory [(0x04, Image.topThreadsListAddr), (0x0C, 0x08)])

theorem unread_link_adds_thread :
    ¬ ∀ (backend : Backend) (md : Metadata) (ts ts' : Threads),
      (∃ fuel, (updateThreads backend md fuel ts).value = some ts') →
      NoPhantoms backend md (listedAddrs ts') := by
  intro h
  have hlists : Lists danglingTarget Image.metadata [0xFFFFFFF0] :=
    .of_nodesOf 8 (by decide)
  obtain ⟨fuel, hfuel⟩ := updateThreads_eq_some_iff.mpr ⟨_, hlists, rfl⟩
  obtain ⟨forest, hforest, hsame⟩ := h danglingTarget Image.metadata
    ⟨[], 0, none, fun _ _ => 0⟩ _ ⟨fuel, hfuel⟩
  have hunread : (linksRead danglingTarget Image.metadata).link?
      Image.topThreadsListAddr = none := by decide
  have hempty : forest = .nil := by
    cases forest with
    | nil => rfl
    | cons element children siblings =>
        have hlink : (linksRead danglingTarget Image.metadata).link?
            Image.topThreadsListAddr = some element := hforest.1
        rw [hunread] at hlink
        cases hlink
  subst hempty
  have hlisted := (lists_of_updateThreads ⟨fuel, hfuel⟩).unique hlists
  rw [hlisted] at hsame
  cases hsame

end Drtm.RunTimeData

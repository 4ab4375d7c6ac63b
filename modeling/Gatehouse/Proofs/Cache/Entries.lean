import Gatehouse.Cache
import Gatehouse.Proofs.Ordered.Members

/-!
# What can be read of the cache, now and later

What counts of a cache is what it shows at an instant and at all later ones: an
expired entry may still be there or may have been dropped. Setting and deleting a key
are said in these terms.
-/

namespace Gatehouse.TtlCache

variable {cache after : TtlCache} {now instant : Nat} {key value : String} {ttl : Span}

/-- From an instant on, two caches show the same under a key. -/
def ShowsSame (key : String) (now : Nat) (cache other : TtlCache) : Prop :=
  ∀ instant, now ≤ instant → other.get? instant key = cache.get? instant key

theorem ShowsSame.refl (key : String) (now : Nat) (cache : TtlCache) :
    ShowsSame key now cache cache :=
  fun _ _ => rfl

/-- A value that was set counts for its time. -/
theorem get?_of_set (done : cache.set now key value ttl = .ok after) :
    after.get? instant key = if instant < now + ttl.nanos then some value else none := by
  rw [set] at done
  split at done
  · obtain rfl := Except.ok.inj done
    rw [get?, OrderedMap.get?_insert, if_pos rfl, Option.filter]
    simp only [CacheEntry.isLive, decide_eq_true_eq]
    split <;> rfl
  · injection done

/-- Whether a value can be set does not depend on the key. -/
theorem set_ne_ok_of_error {elsewhere another : String} {fault : StoreFault}
    (failed : cache.set now key value ttl = .error fault) :
    cache.set now elsewhere another ttl ≠ .ok after := by
  rw [set] at failed ⊢
  split at failed
  · injection failed
  · next late =>
      rw [if_neg late]
      nofun

/-- Where setting two keys comes to the same, each was there already. -/
theorem get?_of_set_elsewhere {elsewhere another : String} {lasting : Span}
    (apart : key ≠ elsewhere) (done : cache.set now key value ttl = .ok after)
    (also : cache.set now elsewhere another lasting = .ok after) :
    cache.get? now key = some value := by
  have entry : after.entries.get? key = some ⟨value, now + ttl.nanos⟩ := by
    rw [set] at done
    split at done
    · obtain rfl := Except.ok.inj done
      rw [OrderedMap.get?_insert, if_pos rfl]
    · injection done
  rw [set] at also
  split at also
  · obtain rfl := Except.ok.inj also
    rw [OrderedMap.get?_insert, if_neg apart, OrderedMap.get?_filter_eq_some] at entry
    rw [get?, entry.1, Option.filter_some, if_pos entry.2]
    rfl
  · injection also

/-- Setting a value does not show under other keys, though entries are dropped. -/
theorem showsSame_of_set {elsewhere : String} (apart : key ≠ elsewhere)
    (done : cache.set now key value ttl = .ok after) : ShowsSame elsewhere now cache after := by
  rw [set] at done
  split at done
  · obtain rfl := Except.ok.inj done
    intro instant later
    rw [get?, get?, OrderedMap.get?_insert, if_neg (Ne.symm apart)]
    congr 1
    apply Option.ext
    intro entry
    simp only [Option.filter_eq_some_iff, OrderedMap.get?_filter_eq_some, CacheEntry.isLive,
      decide_eq_true_eq]
    constructor
    · rintro ⟨⟨found, -⟩, live⟩
      exact ⟨found, live⟩
    · rintro ⟨found, live⟩
      exact ⟨⟨found, by omega⟩, live⟩
  · injection done

@[simp] theorem get?_delete (key : String) (instant : Nat) (cache : TtlCache) :
    (cache.delete key).get? instant key = none := by
  rw [get?, delete, OrderedMap.get?_erase, if_pos rfl]
  rfl

theorem showsSame_delete {elsewhere : String} (apart : key ≠ elsewhere) (now : Nat)
    (cache : TtlCache) : ShowsSame elsewhere now cache (cache.delete key) := by
  intro instant _
  rw [get?, get?, delete, OrderedMap.get?_erase, if_neg (Ne.symm apart)]

/-- A key that has no entry shows nothing. -/
theorem get?_of_absent (absent : cache.entries.get? key = none) :
    cache.get? instant key = none := by
  rw [get?, absent]
  rfl

end Gatehouse.TtlCache

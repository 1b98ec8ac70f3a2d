import GrantedRoles.Assoc
import GrantedRoles.Value

/-!
# The logging context

Values bound for every line that is logged while they are bound. A user is bound for the time of
one resolution: `enter` remembers what its two keys held and `leave` puts that back, so a caller's
own context survives, also under the same keys.
-/

set_option autoImplicit false

namespace GrantedRoles.Log

/-- The values bound for every line. -/
abbrev Context := Assoc Value

/-- What the two keys of a user held before the user was bound. -/
structure Frame where
  userDn : Option Value
  username : Option Value

namespace Context

/-- The key of the user's distinguished name. -/
def userDnKey : String := "user_dn"

/-- The key of the user's name. -/
def usernameKey : String := "username"

/-- Binds a key, or unbinds it if it was not bound. -/
def restore (key : String) (old : Option Value) (context : Context) : Context :=
  match old with
  | some value => Assoc.put key value context
  | none => Assoc.erase context key

/-- Binds a user, and what the keys held before. -/
def enter (context : Context) (dn username : Value) : Context × Frame :=
  (Assoc.put usernameKey username (Assoc.put userDnKey dn context),
    ⟨Assoc.get? context userDnKey, Assoc.get? context usernameKey⟩)

/-- What the two keys of a user hold in a context. -/
def frame (context : Context) : Frame :=
  ⟨Assoc.get? context userDnKey, Assoc.get? context usernameKey⟩

/-- Unbinds the user of a frame. -/
def leave (context : Context) (frame : Frame) : Context :=
  restore userDnKey frame.userDn (restore usernameKey frame.username context)

/-- Putting back what a key held undoes putting something else there. -/
theorem restore_put (context : Context) (key : String) (value : Value) :
    restore key (Assoc.get? context key) (Assoc.put key value context) = context := by
  cases h : Assoc.get? context key with
  | none => exact Assoc.erase_put value h
  | some old =>
    rw [restore, Assoc.put_put]
    exact Assoc.put_eq_self h

/-- Unbinding a user leaves the context as it was before the user was bound. -/
theorem leave_enter (context : Context) (dn username : Value) :
    (context.enter dn username).1.leave (context.enter dn username).2 = context := by
  have hkept : Assoc.get? (Assoc.put userDnKey dn context) usernameKey
      = Assoc.get? context usernameKey := by
    rw [Assoc.get?_put, if_neg (by decide)]
  simp only [enter, leave]
  rw [← hkept, restore_put, restore_put]

/-- A bound user hides what its two keys held, and no other key. -/
theorem get?_enter (context : Context) (dn username : Value) (key : String) :
    Assoc.get? (context.enter dn username).1 key
      = if key = usernameKey then some username
        else if key = userDnKey then some dn else Assoc.get? context key := by
  rw [enter, Assoc.get?_put, Assoc.get?_put]

theorem get?_restore (context : Context) (key other : String) (old : Option Value) :
    Assoc.get? (restore key old context) other
      = if other = key then old else Assoc.get? context other := by
  cases old with
  | none => exact Assoc.get?_erase context key other
  | some value => exact Assoc.get?_put context key other value

/-- Leaving gives the two keys of a user what the frame holds, and touches no other key. -/
theorem get?_leave (context found : Context) (key : String) :
    Assoc.get? (context.leave found.frame) key
      = if key = userDnKey ∨ key = usernameKey then Assoc.get? found key
        else Assoc.get? context key := by
  rw [leave, get?_restore, get?_restore]
  by_cases hdn : key = userDnKey
  · subst hdn
    rw [if_pos rfl, if_pos (Or.inl rfl)]
    rfl
  · by_cases hname : key = usernameKey
    · subst hname
      rw [if_neg hdn, if_pos rfl, if_pos (Or.inr rfl)]
      rfl
    · rw [if_neg hdn, if_neg hname, if_neg (not_or.2 ⟨hdn, hname⟩)]

end Context

end GrantedRoles.Log

import Mathlib.Tactic.IntervalCases
import Mathlib.Tactic.Linarith

/-!
# Return codes

The service hands back `0` or a negated Linux error number.  What GSL hands back is an `AR_` code, which
`ar_err_get_lnx_err_code` (`utils.c`) turns into one of those through a table; `arErrGetLnxErrCode_eq_zero_iff`
says the turn never makes a failure look like a success.
-/

namespace Agm.Service

def EPERM : Int := 1
def EIO : Int := 5
def EAGAIN : Int := 11
def ENOMEM : Int := 12
def EBUSY : Int := 16
def ENODEV : Int := 19
def EINVAL : Int := 22
def ENOSPC : Int := 28
def EPIPE : Int := 32
def EBADR : Int := 53
def ENODATA : Int := 61
def EADV : Int := 68
def ENOPROTOOPT : Int := 92
def EOPNOTSUPP : Int := 95
def ENETRESET : Int := 102
def ETIMEDOUT : Int := 110
def EALREADY : Int := 114
def EINPROGRESS : Int := 115
def ECANCELED : Int := 125
def ENOTRECOVERABLE : Int := 131

/-- `ar_err_code_info`, the column of Linux codes. -/
def arErrCodeInfo : List Int :=
  [0, -ENOTRECOVERABLE, -EINVAL, -EOPNOTSUPP, -ENOPROTOOPT, -ENOTRECOVERABLE, -ENOTRECOVERABLE, -ENOSPC, -EBADR,
    -EALREADY, -EPERM, -EINPROGRESS, -EBUSY, -ECANCELED, -EAGAIN, -EAGAIN, -EAGAIN, -ENODATA, -ENOMEM, -ENODEV,
    -ENODEV, -ETIMEDOUT, - EIO, -ENETRESET, -EADV]

/-- `ar_err_get_lnx_err_code`.  The argument is a `uint32_t`, so a negative code is above the table and gets its
last row. -/
def arErrGetLnxErrCode (error : Int) : Int :=
  if error < 0 then -EADV else arErrCodeInfo.getD error.toNat (-EADV)

@[simp] theorem arErrGetLnxErrCode_zero : arErrGetLnxErrCode 0 = 0 := rfl

theorem arErrGetLnxErrCode_eq_zero_iff (e : Int) : arErrGetLnxErrCode e = 0 ↔ e = 0 := by
  refine ⟨fun h => ?_, fun h => by rw [h]; rfl⟩
  by_contra he
  unfold arErrGetLnxErrCode at h
  split at h
  · exact absurd h (by decide)
  · obtain ⟨n, rfl⟩ := Int.eq_ofNat_of_zero_le (not_lt.1 ‹_›)
    have hn : n ≠ 0 := fun h0 => he (by simp [h0])
    rw [Int.toNat_natCast] at h
    rcases Nat.lt_or_ge n 25 with hlt | hge
    · interval_cases n <;> first | exact absurd rfl hn | exact absurd h (by decide)
    · rw [List.getD_eq_getElem?_getD, List.getElem?_eq_none hge] at h
      exact absurd h (by decide)

end Agm.Service

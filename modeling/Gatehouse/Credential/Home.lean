import Gatehouse.Credential.Basic
import Gatehouse.FilePath

/-
  Home directories of users.

  A user has a home below a root directory, named by the
  user id.  Only ids of a few harmless characters have one,
  and neither of the two names that stand for directories.

  Key definitions include:
    * `Home.isAllowed`
    * `Home.isUserId`
    * `Home.ofUser`
    * `Home.credentialsFile`
-/

namespace Gatehouse

namespace Home

/- The characters of user ids. -/
def isAllowed
    (c : Char) : Bool :=
  c.isAlphanum || c = '-' || c = '_' || c = '.' || c = '@'

/- May the text name a home? -/
def isUserId
    (user : String) : Bool :=
  !user.isEmpty && user ≠ "." && user ≠ ".." &&
    user.toList.all isAllowed

/- The home of a user below a root. -/
def ofUser
    (root user : String) :
    Except Credentials.Fault String :=
  if isUserId user then
    .ok (FilePath.join root user)
  else
    .error (.home ("invalid user id " ++ Quoted.quote user))

/- Where the credentials are in a home. -/
def relativeFile : String :=
  ".claude/.credentials.json"

/- The file of credentials in a home. -/
def credentialsFile
    (home : String) : String :=
  FilePath.join home relativeFile

end Home

end Gatehouse

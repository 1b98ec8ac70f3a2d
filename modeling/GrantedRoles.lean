import GrantedRoles.Hooks.Hierarchy
import GrantedRoles.Proofs.Directory.Release
import GrantedRoles.Proofs.Grants
import GrantedRoles.Proofs.FailClosed
import GrantedRoles.Proofs.SearchFilter.Formatting
import GrantedRoles.Proofs.SearchFilter.Refusal
import GrantedRoles.Proofs.SearchFilter.Region
import GrantedRoles.Proofs.Session.Connections
import GrantedRoles.Proofs.Session.Context
import GrantedRoles.Session
import GrantedRoles.User.Source
import GrantedRoles.Version
import GrantedRoles.Proofs.Conduct
import GrantedRoles.Proofs.Directory.Warnings
import GrantedRoles.Proofs.Directory.Outcome
import GrantedRoles.Proofs.Log.History
import GrantedRoles.Proofs.Remarks
import GrantedRoles.Proofs.Session.Logging
import GrantedRoles.Process
import GrantedRoles.Proofs.Process.Opening
import GrantedRoles.Proofs.Password.Settings
import GrantedRoles.Proofs.Password.Store
import GrantedRoles.Proofs.Password.Conduct
import GrantedRoles.Proofs.Password.Process
import GrantedRoles.Proofs.Union
import GrantedRoles.Proofs.Directory.Collecting
import GrantedRoles.Proofs.Directory.Nulls
import GrantedRoles.Proofs.GroupSearch.Parts
import GrantedRoles.Proofs.GroupSearch.Validity
import GrantedRoles.Proofs.GroupSearch.Modifiers
import GrantedRoles.Proofs.Settings.Acceptance
import GrantedRoles.Proofs.Settings.Precedence
import GrantedRoles.Proofs.Impartial
import GrantedRoles.Proofs.Wiring
import GrantedRoles.Proofs.Hooks.Hierarchy
import GrantedRoles.Proofs.Hooks.Deprecation
import GrantedRoles.Proofs.User.Snapshot
import GrantedRoles.Proofs.User.Equality
import GrantedRoles.Proofs.Log.Fields
import GrantedRoles.Proofs.Session.Attribution
import GrantedRoles.Proofs.Session.FirstConfiguration

import Keylo.ResetTokens
import Keylo.Recovery.Outage
import Keylo.Limits.Lockout
import Keylo.Anonymous.Runs
import Keylo.Credentials.ApiKeys
import Keylo.Lifecycle.Mirror
import Keylo.UserClasses
import Keylo.Assignability
import Keylo.Mfa.OneTime
import Keylo.Authorization.Isolation
import Keylo.Authorization.Machines
import Keylo.Authorization.Revocation
import Keylo.Oidc.RedirectUris
import Keylo.Tenancy.Deactivation
import Keylo.Tenancy.Owners
import Keylo.Refresh.Lineage
import Keylo.Setup.Release
import Keylo.Resources.Agreement
import Keylo.Upstream.Metadata
import Keylo.Logins.CutOver
import Keylo.Upstream.VerifiedEmail
import Keylo.Upstream.Provenance
import Keylo.Tokens.BlacklistHistory
import Keylo.Upstream.Redaction
import Keylo.Signing.Overlap
import Keylo.Signing.Persistence
import Keylo.Tokens.Introspection
import Keylo.Startup

import Socle.Relational.Table
import Socle.Relational.Ddl
import Socle.Interaction.Prog
import Socle.Interaction.History
import Socle.Interaction.Pool
import Socle.Interaction.Embed
import Socle.Interaction.Arrivals
import Socle.Interaction.Linearization
import Socle.Interaction.Simulation
import Socle.Interaction.Reading
import Socle.Valkey.Keyspace
import Socle.Model.Models
import Socle.Model.Migrations
import Socle.Model.Database
import Socle.Model.Statements
import Socle.Model.Ideal
import Socle.Model.Execution
import Socle.Services.App
import Socle.Services.Token
import Socle.Services.User
import Socle.Services.Auth
import Socle.Routes
import Socle.Service
import Socle.Demo
import Socle.Web.Statements
import Socle.Web.RateLimit
import Socle.Web.OAuth
import Socle.Web.Routes
import Socle.Web.Keys
import Socle.Web.Demo
import Socle.Web.Runs
import Socle.Freshness
import Socle.Marks
import Socle.Sequential
import Socle.Shutdown
import Socle.Failures
import Socle.Accounts.Upgrade
import Socle.Accounts.Creation
import Socle.Accounts.Credentials
import Socle.Accounts.Policy
import Socle.Accounts.Identity
import Socle.Accounts.FirstLogin
import Socle.Access.Provenance
import Socle.Access.Administration
import Socle.Tokens.Rotation
import Socle.Tokens.Revocation
import Socle.Tokens.AuthMethod
import Socle.Tokens.Effects
import Socle.Tokens.History
import Socle.Tokens.Sessions
import Socle.Access.Reasons
import Socle.Access.Truthful
import Socle.Accounts.Directory
import Socle.Accounts.Governance
import Socle.Tokens.Endurance
import Socle.Limits.Admission
import Socle.Limits.Clients
import Socle.Limits.Passage
import Socle.Web.Causes
import Socle.Web.Errors
import Socle.Flow.OneTime
import Socle.Flow.SingleUse
import Socle.Flow.Store
import Socle.Limits.Throttle
import Socle.Flow.Availability
import Socle.Flow.Refusals
import Socle.Flow.Pkce
import Socle.Flow.Providers
import Socle.Flow.Browsers
import Socle.Accounts.Deactivation
import Socle.Accounts.Merging
import Socle.Accounts.AllOrNothing
import Socle.Accounts.Passwords
import Socle.Accounts.Verification
import Socle.Accounts.Login
import Socle.Limits.Arithmetic
import Socle.Limits.RetryAfter
import Socle.Tokens.Lifetimes
import Socle.Tokens.Retry
import Socle.Access.Isolation
import Socle.Access.Confirmed
import Socle.Flow.SignIn

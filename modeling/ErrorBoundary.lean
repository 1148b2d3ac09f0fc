import ErrorBoundary.Main
import ErrorBoundary.Showcase
import ErrorBoundary.Proofs.Json.Escape
import ErrorBoundary.Proofs.Json.RoundTrip
import ErrorBoundary.Proofs.ErrorInfo
import ErrorBoundary.Proofs.Classification
import ErrorBoundary.Proofs.ErrorSettings
import ErrorBoundary.Proofs.StatusTable
import ErrorBoundary.Proofs.Announcement
import ErrorBoundary.Proofs.Cause
import ErrorBoundary.Proofs.Nesting
import ErrorBoundary.Proofs.Disclosure
import ErrorBoundary.Proofs.Layers
import ErrorBoundary.Proofs.Server
import ErrorBoundary.Proofs.Coherence
import ErrorBoundary.Proofs.Uri
import ErrorBoundary.Proofs.Url
import ErrorBoundary.Proofs.UserInfo
import ErrorBoundary.Proofs.Router
import ErrorBoundary.Proofs.RequestLog
import ErrorBoundary.Proofs.Json.Reorder
import ErrorBoundary.Proofs.Partial
import ErrorBoundary.Proofs.Settings
import ErrorBoundary.Proofs.ReadBack
import ErrorBoundary.Proofs.Influence
import ErrorBoundary.Proofs.Upload
import ErrorBoundary.Proofs.TextRecord
import ErrorBoundary.Proofs.JsonBody
import ErrorBoundary.Proofs.Startup
import ErrorBoundary.Proofs.Layering
import ErrorBoundary.Proofs.Sections
import ErrorBoundary.Proofs.Toml.Line
import ErrorBoundary.Proofs.SettingText
import ErrorBoundary.Proofs.Sources
import ErrorBoundary.Proofs.Integers

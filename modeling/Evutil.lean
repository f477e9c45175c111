import Evutil.CLib
import Evutil.Inet
import Evutil.InetText
import Evutil.InetParse
import Evutil.InetRoundTrip
import Evutil.InetAccept
import Evutil.InetWords
import Evutil.Sockaddr
import Evutil.SockaddrRoundTrip
import Evutil.SockaddrForms
import Evutil.Servname
import Evutil.MonotonicTime
import Evutil.Arc4Random
import Evutil.Arc4Invariant
import Evutil.Arc4Reseed
import Evutil.Weakrand
import Evutil.Compare
import Evutil.SockaddrCmp
import Evutil.Arc4AddBytes
import Evutil.InetScope
import Evutil.Addrinfo
import Evutil.AddrinfoHacks
import Evutil.GetaddrinfoCommon
import Evutil.Getaddrinfo
import Evutil.Interfaces
import Evutil.Kernel
import Evutil.Descriptors
import Evutil.DescriptorRuns
import Evutil.Socketpair
import Evutil.ReadFile
import Evutil.TimeUtil
import Evutil.RtrimLws

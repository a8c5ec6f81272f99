import X07Ext.Heap
import X07Ext.SlotTable
import X07Ext.Shim
import X07Ext.Store
import X07Ext.Alloc
import X07Ext.Json
import X07Ext.Zlib.Shim
import X07Ext.Zlib.Refinement
import X07Ext.Openssl.Library
import X07Ext.Openssl.Encoding
import X07Ext.Openssl.Shim
import X07Ext.Openssl.Base64url
import X07Ext.Openssl.Rand
import X07Ext.Openssl.Components
import X07Ext.Openssl.Jwk
import X07Ext.Openssl.ReadBack
import X07Ext.Openssl.EntryPoints
import X07Ext.Openssl.Refinement
import X07Ext.Openssl.V013
import X07Ext.Resources
import X07Ext.Capacity
import X07Ext.Abi.Layout
